/-!
# Channels

A verified artifact set can be promoted to two distribution channels. Staging always comes before production, in every list and
every report.
-/

namespace ReleaseGate

/-- A distribution channel. -/
inductive Channel where
  | staging
  | production
  deriving DecidableEq, Repr, Inhabited

namespace Channel

/-- The channels, staging first. -/
def all : List Channel := [.staging, .production]

/-- The name of a channel in reports and messages. -/
def name : Channel → String
  | .staging => "staging"
  | .production => "production"

/-- The channel of a name. -/
def ofName? (s : String) : Option Channel := all.find? (·.name == s)

instance : ToString Channel := ⟨name⟩

@[simp] theorem mem_all (c : Channel) : c ∈ all := by cases c <;> decide

@[simp] theorem ofName?_name (c : Channel) : ofName? c.name = some c := by cases c <;> decide

end Channel

/-- One value for each channel, or none. -/
structure PerChannel (α : Type) where
  staging : α
  production : α
  deriving DecidableEq, Repr

namespace PerChannel

/-- The value for a channel. -/
def get {α : Type} (p : PerChannel α) : Channel → α
  | .staging => p.staging
  | .production => p.production

/-- The values with the one for a channel replaced. -/
def set {α : Type} (p : PerChannel α) (c : Channel) (a : α) : PerChannel α :=
  match c with
  | .staging => { p with staging := a }
  | .production => { p with production := a }

/-- The same value for both channels. -/
def both {α : Type} (a : α) : PerChannel α := ⟨a, a⟩

/-- The values that are there, with their channels, staging first. -/
def entries {α : Type} (p : PerChannel (Option α)) : List (Channel × α) :=
  Channel.all.filterMap fun c => (p.get c).map fun a => (c, a)

@[simp] theorem get_set {α : Type} (p : PerChannel α) (c d : Channel) (a : α) :
    (p.set c a).get d = if d = c then a else p.get d := by
  cases c <;> cases d <;> rfl

theorem mem_entries_iff {α : Type} (p : PerChannel (Option α)) (c : Channel) (a : α) :
    (c, a) ∈ p.entries ↔ p.get c = some a := by
  unfold entries
  rw [List.mem_filterMap]
  constructor
  · rintro ⟨d, -, h⟩
    obtain ⟨b, hb, same⟩ := Option.map_eq_some_iff.mp h
    obtain ⟨rfl, rfl⟩ := Prod.mk.inj same
    exact hb
  · intro h
    exact ⟨c, Channel.mem_all c, by rw [h]; rfl⟩

end PerChannel

end ReleaseGate
