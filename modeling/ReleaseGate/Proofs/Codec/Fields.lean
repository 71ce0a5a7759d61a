import ReleaseGate.Codec.Basic
import ReleaseGate.Proofs.Json.RoundTrip

/-!
# What is stored is read back

`ReadsBack` says that a stored form and its decoder fit: what is stored holds no numbers but unsigned integers, so that it survives
its text (`ReadsBack.parse?_print`), and the decoder gives back what was stored. It is not null, so a field that may be null tells
it from nothing. The conventions for records and choices are lemmas here, so that each type needs only its own names.
-/

namespace ReleaseGate

namespace Json

@[simp] theorem plain_null : Plain null := .null

@[simp] theorem plain_bool (b : Bool) : Plain (bool b) := .bool b

@[simp] theorem plain_natural (n : Nat) : Plain (natural n) := .natural n

@[simp] theorem plain_str (s : String) : Plain (str s) := .str s

@[simp] theorem plain_array_iff (items : List Json) : Plain (array items) ↔ ∀ item ∈ items, Plain item := by
  constructor
  · intro h
    cases h with
    | array each => exact each
  · exact .array

@[simp] theorem plain_object_iff (members : List (String × Json)) : Plain (object members) ↔ ∀ m ∈ members, Plain m.2 := by
  constructor
  · intro h
    cases h with
    | object each => exact each
  · exact .object

theorem object_ne_null (members : List (String × Json)) : object members ≠ null := nofun

end Json

namespace Codec

open Json

variable {α : Type} {write : α → Json} {read? : Json → Option α}

/-- Whether a decoder gives back what is stored. -/
structure ReadsBack (write : α → Json) (read? : Json → Option α) : Prop where
  plain : ∀ a, (write a).Plain
  notNull : ∀ a, write a ≠ .null
  read : ∀ a, read? (write a) = some a

/-- What is stored survives its text. -/
theorem ReadsBack.parse?_print (h : ReadsBack write read?) (layout : Layout) (a : α) :
    (Json.parse? (String.ofList (print layout (write a)))).bind read? = some a := by
  rw [Json.parse?_print (h.plain a), Option.bind_some, h.read]

/-! ## Single values -/

theorem readsBack_text : ReadsBack str text? := ⟨plain_str, nofun, fun _ => rfl⟩

theorem readsBack_flag : ReadsBack bool flag? := ⟨plain_bool, nofun, fun _ => rfl⟩

theorem readsBack_word : ReadsBack (fun n : UInt64 => natural n.toNat) word? := by
  refine ⟨fun n => plain_natural _, nofun, fun n => ?_⟩
  rw [word?, if_pos n.toNat_lt]
  exact congrArg some n.ofNat_toNat

/-- A choice without content is stored as its name. -/
theorem readsBack_named {name : α → String} {ofName? : String → Option α} (known : ∀ a, ofName? (name a) = some a) :
    ReadsBack (fun a => str (name a)) (named? ofName?) :=
  ⟨fun _ => plain_str _, nofun, known⟩

/-- What is stored as a text, and read from it. -/
theorem readsBack_spelled {spell : α → String} {parse? : String → Option α} (known : ∀ a, parse? (spell a) = some a) :
    ReadsBack (fun a => str (spell a)) fun j => (text? j).bind parse? :=
  ⟨fun _ => plain_str _, nofun, known⟩

theorem ReadsBack.list (h : ReadsBack write read?) : ReadsBack (ofList write) (list? read?) := by
  refine ⟨fun as => ?_, nofun, fun as => ?_⟩
  · simpa [ofList] using fun a _ => h.plain a
  · unfold ofList list?
    induction as with
    | nil => rfl
    | cons a as ih => simp [List.mapM_cons, h.read, ih]

/-! ## Fields -/

@[simp] theorem required_some (field : Json) : required read? (some field) = read? field := rfl

/-- A field that may be null is read back, whether it holds something or not. -/
theorem ReadsBack.optional_ofOption (h : ReadsBack write read?) (o : Option α) :
    optional read? (some (ofOption write o)) = some o := by
  cases o with
  | none => rfl
  | some a =>
    have there : orNull? read? (write a) = (read? (write a)).map some := by
      unfold orNull?
      split
      next null => exact absurd null (h.notNull a)
      next => rfl
    rw [optional, ofOption, there, h.read, Option.map_some]

/-- A decoder of a record goes on with what is stored in a field. -/
theorem ReadsBack.required_bind {β : Type} (h : ReadsBack write read?) (a : α) (next : α → Option β) :
    (required read? (some (write a))).bind next = next a := by
  rw [required_some, h.read, Option.bind_some]

theorem ReadsBack.optional_bind {β : Type} (h : ReadsBack write read?) (o : Option α) (next : Option α → Option β) :
    (optional read? (some (ofOption write o))).bind next = next o := by
  rw [h.optional_ofOption, Option.bind_some]

theorem ReadsBack.plain_ofOption (h : ReadsBack write read?) (o : Option α) : (ofOption write o).Plain := by
  cases o with
  | none => exact plain_null
  | some a => exact h.plain a

theorem ofText?_eq (o : Option String) : ofText? o = ofOption str o := by cases o <;> rfl

/-- Where no name occurs twice, each names one value. -/
theorem valuesOf_of_mem {name : String} {value : Json} {members : List (String × Json)} (distinct : (members.map (·.1)).Nodup)
    (there : (name, value) ∈ members) : valuesOf name members = [value] := by
  obtain ⟨before, after, rfl⟩ := List.append_of_mem there
  rw [List.map_append, List.map_cons, List.nodup_append, List.nodup_cons] at distinct
  obtain ⟨-, ⟨later, -⟩, apart⟩ := distinct
  have others : ∀ part : List (String × Json), name ∉ part.map (·.1) → part.filter (·.1 == name) = [] := by
    intro part absent
    refine List.filter_eq_nil_iff.mpr fun m hm same => absent ?_
    exact beq_iff_eq.mp same ▸ List.mem_map_of_mem hm
  have noneBefore := others before fun inside => apart name inside name List.mem_cons_self rfl
  simp [valuesOf, noneBefore, others after later]

/-- The fields of a record are those it is stored with. -/
theorem fields?_object {names : List String} {members : List (String × Json)} (named : members.map (·.1) = names)
    (distinct : names.Nodup) : fields? names (object members) = some (members.map fun m => some m.2) := by
  subst named
  have each : ∀ (read : String → Option (Option Json)) (part : List (String × Json)),
      (∀ m ∈ part, read m.1 = some (some m.2)) → (part.map (·.1)).mapM read = some (part.map fun m => some m.2) := by
    intro read part known
    induction part with
    | nil => rfl
    | cons m part ih =>
      obtain ⟨first, others⟩ := List.forall_mem_cons.mp known
      simp [List.mapM_cons, first, ih others]
  refine each _ members fun m hm => ?_
  have value : valuesOf m.1 members = [m.2] := valuesOf_of_mem distinct hm
  simp only [value]

/-! ## Choices -/

/-- A choice that is stored without content. -/
theorem tagged?_bare {tag content : String} (apart : tag ≠ content) (name : String) :
    tagged? tag content (object [(tag, str name)]) = some (name, none) := by
  simp [tagged?, fields?, valuesOf, apart, choice?]

/-- A choice that is stored with its content. -/
theorem tagged?_content {tag content : String} (apart : tag ≠ content) (name : String) (value : Json) :
    tagged? tag content (object [(tag, str name), (content, value)]) = some (name, some value) := by
  simp [tagged?, fields?, valuesOf, apart, Ne.symm apart, choice?]

end Codec

end ReleaseGate
