import ReleaseGate.Proofs.Naming.Components
import ReleaseGate.Publish.FileTags

/-!
# Versions in the names of wheels

The name of a wheel has its project, its version, an optional build tag and three more tags, with hyphens in between. A version is
found in it in two ways: it is the version of the wheel, or one of the other components is that version or ends in it after an
underscore (`Wheel.carriesVersion_wheel_iff`). The second way is real: every wheel for `linux_x86_64` carries version 64.
-/

namespace ReleaseGate.Naming

open Text

/-! ## Components between hyphens -/

/-- A component of a file name is a version, in lower case, or ends in one that begins where components begin. -/
def EndsInVersion (component version : List Char) : Prop :=
  ∃ p, lowerAscii component = p ++ version ∧ startsComponent p.getLast? = true

theorem mem_lowerAscii_hyphen {s : List Char} : '-' ∈ lowerAscii s ↔ '-' ∈ s := by
  simp [lowerAscii, toLower_eq_iff (by decide : ('-' : Char).isAlpha = false)]

theorem endsComponent_hyphen (rest : List Char) : endsComponent ('-' :: rest) = true := by
  simp [endsComponent]

theorem startsComponent_after_hyphen (component p : List Char) :
    startsComponent (component ++ '-' :: p).getLast? = startsComponent p.getLast? := by
  rw [List.getLast?_append, List.getLast?_cons]
  cases p.getLast? <;> rfl

/-- In the last component of a wheel a version stands at its end. -/
theorem standsIn_last_iff {version component : List Char} (digit : Parts.EndsInDigit version) (plain : '-' ∉ component) :
    StandsIn version (component ++ FileTags.wheelEnding) ↔ ∃ p, component = p ++ version ∧ startsComponent p.getLast? = true := by
  constructor
  · rintro ⟨p, after, whole, starts, ends⟩
    rcases (endsComponent_iff after).mp ends with rfl | ⟨rest, rfl⟩ | ⟨e, known, rfl⟩
    · -- the last character of the version would be that of the ending
      obtain ⟨before, d, number, rfl⟩ := digit
      have last := congrArg List.getLast? whole
      simp [FileTags.wheelEnding] at last
      subst last
      cases number
    · have inside : '-' ∈ component ++ FileTags.wheelEnding := by
        rw [whole]
        simp
      rcases List.mem_append.mp inside with here | there
      · exact absurd here plain
      · exact absurd there (by decide)
    · have last := congrArg List.getLast? whole
      have wheel : e = ".whl" := by
        simp only [extensions, List.mem_cons, List.not_mem_nil, or_false] at known
        rcases known with rfl | rfl | rfl | rfl | rfl
        all_goals first | rfl | simp [FileTags.wheelEnding] at last
      subst wheel
      refine ⟨p, ?_, starts⟩
      rw [← List.append_assoc] at whole
      exact List.append_cancel_right whole
  · rintro ⟨p, rfl, starts⟩
    exact ⟨p, FileTags.wheelEnding, List.append_assoc .., starts, by decide⟩

/-- Before a hyphen a version stands at the end of a component, or in what follows the hyphen. -/
theorem standsIn_hyphen_iff {version component rest : List Char} (something : version ≠ []) (noHyphen : '-' ∉ version)
    (plain : '-' ∉ component) :
    StandsIn version (component ++ '-' :: rest) ↔
      (∃ p, component = p ++ version ∧ startsComponent p.getLast? = true) ∨ StandsIn version rest := by
  constructor
  · rintro ⟨p, after, whole, starts, ends⟩
    rcases List.append_eq_append_iff.mp whole with ⟨x, rfl, right⟩ | ⟨x, rfl, right⟩
    · -- the version begins after the hyphen
      cases x with
      | nil =>
        obtain ⟨c, more, rfl⟩ := List.exists_cons_of_ne_nil something
        obtain ⟨rfl, -⟩ := List.cons.inj right
        exact absurd List.mem_cons_self noHyphen
      | cons c x =>
        obtain ⟨rfl, rfl⟩ := List.cons.inj right
        rw [startsComponent_after_hyphen] at starts
        exact .inr ⟨x, after, rfl, starts, ends⟩
    · -- it begins in the component, and reaches to its end
      rcases List.append_eq_append_iff.mp right with ⟨y, rfl, after_hyphen⟩ | ⟨y, rfl, before_hyphen⟩
      · refine .inl ⟨p, ?_, starts⟩
        rcases (endsComponent_iff after).mp ends with rfl | ⟨more, rfl⟩ | ⟨e, known, rfl⟩
        · cases y <;> cases after_hyphen
        · cases y with
          | nil => rw [List.append_nil]
          | cons c y =>
            obtain ⟨rfl, -⟩ := List.cons.inj after_hyphen
            exact absurd (by simp) plain
        · have inside : '-' ∈ e.toList := by
            rw [after_hyphen]
            simp
          have none_has : ∀ e ∈ extensions, '-' ∉ e.toList := by decide
          exact absurd inside (none_has e known)
      · cases y with
        | nil => exact .inl ⟨p, by rw [List.append_nil], starts⟩
        | cons c y =>
          obtain ⟨rfl, -⟩ := List.cons.inj before_hyphen
          exact absurd (by simp) noHyphen
  · rintro (⟨p, rfl, starts⟩ | ⟨p, after, rfl, starts, ends⟩)
    · exact ⟨p, '-' :: rest, List.append_assoc .., starts, endsComponent_hyphen rest⟩
    · refine ⟨component ++ '-' :: p, after, by simp, ?_, ends⟩
      rw [startsComponent_after_hyphen]
      exact starts

/-- A version stands in components between hyphens, before the ending of a wheel, just when one of them ends in it. -/
theorem standsIn_joinWith_iff {version : List Char} (digit : Parts.EndsInDigit version) (noHyphen : '-' ∉ version)
    {components : List (List Char)} (some_component : components ≠ []) (plain : ∀ c ∈ components, '-' ∉ c) :
    StandsIn version (lowerAscii (joinWith ['-'] components ++ FileTags.wheelEnding)) ↔
      ∃ c ∈ components, EndsInVersion c version := by
  have something : version ≠ [] := by
    obtain ⟨before, d, -, rfl⟩ := digit
    simp
  have ending : lowerAscii FileTags.wheelEnding = FileTags.wheelEnding := by decide
  have lowered : ∀ a b, lowerAscii (a ++ b) = lowerAscii a ++ lowerAscii b := fun a b => List.map_append
  induction components with
  | nil => exact absurd rfl some_component
  | cons c rest ih =>
    obtain ⟨first, others⟩ := List.forall_mem_cons.mp plain
    have first' : '-' ∉ lowerAscii c := mt mem_lowerAscii_hyphen.mp first
    cases rest with
    | nil =>
      rw [joinWith, lowered, ending, standsIn_last_iff digit first']
      simp [EndsInVersion]
    | cons d rest =>
      have hyphen : ∀ s, lowerAscii ('-' :: s) = '-' :: lowerAscii s := fun _ => rfl
      have tail := ih (List.cons_ne_nil d rest) others
      rw [joinWith_cons_cons, List.append_assoc, List.cons_append, lowered, hyphen, standsIn_hyphen_iff something noHyphen first']
      refine (or_congr_right tail).trans ?_
      simp only [List.mem_cons, exists_eq_or_imp, EndsInVersion]

/-! ## Wheels -/

/-- The components of the name of a wheel, of which none holds a hyphen. -/
structure Wheel where
  project : List Char
  version : Version
  build : Option (List Char) := none
  python : List Char
  abi : List Char
  platform : List Char
  plain : ∀ c ∈ project :: (build.toList ++ [python, abi, platform]), '-' ∉ c

namespace Wheel

/-- The components of a wheel beside its version. -/
def others (w : Wheel) : List (List Char) := w.project :: (w.build.toList ++ [w.python, w.abi, w.platform])

/-- The file name of a wheel. -/
def fileName (w : Wheel) : List Char :=
  joinWith ['-'] (w.project :: w.version.canonical.toList :: (w.build.toList ++ [w.python, w.abi, w.platform])) ++
    FileTags.wheelEnding

/-- A version is found in the name of a wheel when it is that of the wheel, or when another component ends in it; and in no other
case. -/
theorem carriesVersion_wheel_iff (w : Wheel) (v : Version) :
    carriesVersion w.fileName v.canonical.toList = true ↔
      v.canonical = w.version.canonical ∨ ∃ c ∈ w.others, EndsInVersion c v.canonical.toList := by
  have noHyphen : ∀ u : Version, '-' ∉ u.canonical.toList := by
    intro u inside
    cases startsComponent_of_mem_canonical inside
  have plain : ∀ c ∈ w.project :: w.version.canonical.toList :: (w.build.toList ++ [w.python, w.abi, w.platform]), '-' ∉ c := by
    obtain ⟨first, tags⟩ := List.forall_mem_cons.mp w.plain
    exact List.forall_mem_cons.mpr ⟨first, List.forall_mem_cons.mpr ⟨noHyphen w.version, tags⟩⟩
  have own : EndsInVersion w.version.canonical.toList v.canonical.toList ↔ v.canonical = w.version.canonical := by
    rw [EndsInVersion, Version.lowerAscii_canonical]
    constructor
    · rintro ⟨p, whole, starts⟩
      cases last : p.getLast? with
      | none =>
        obtain rfl := List.getLast?_eq_none_iff.mp last
        exact (String.toList_inj.mp whole).symm
      | some c =>
        have inside : c ∈ w.version.canonical.toList := by
          rw [whole]
          exact List.mem_append_left _ (List.mem_of_getLast? last)
        rw [last, startsComponent_of_mem_canonical inside] at starts
        cases starts
    · intro same
      exact ⟨[], by rw [same]; rfl, rfl⟩
  rw [carriesVersion_canonical_iff, fileName, standsIn_joinWith_iff v.endsInDigit_canonical (noHyphen v) (by simp) plain]
  simp only [List.mem_cons, exists_eq_or_imp, own, others]
  exact or_left_comm

/-- A wheel of version 1.0 for Linux. -/
def ofLinux : Wheel where
  project := "widget".toList
  version := ⟨"1.0", by decide +kernel⟩
  python := "cp312".toList
  abi := "cp312".toList
  platform := "linux_x86_64".toList
  plain := by decide

/-- A wheel of one version is taken for one of another: its platform ends in 64. -/
theorem carriesVersion_ofLinux :
    ∃ v : Version, v.canonical = "64" ∧ v.canonical ≠ ofLinux.version.canonical ∧
      ofLinux.fileName = "widget-1.0-cp312-cp312-linux_x86_64.whl".toList ∧
      carriesVersion ofLinux.fileName v.canonical.toList = true := by
  refine ⟨⟨"64", by decide +kernel⟩, by decide +kernel, by decide +kernel, by decide +kernel, by decide +kernel⟩

end Wheel

end ReleaseGate.Naming
