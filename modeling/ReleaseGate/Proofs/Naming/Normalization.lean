import ReleaseGate.Verifier.Naming

/-!
# Normalized names

Normalizing reads a name from left to right and remembers only whether a separator was just read. So a name is normalized piece by
piece, and the start of a name is normalized to the start of the whole.
-/

namespace ReleaseGate.Naming

open Text

/-- Whether a separator was just read after a text, given whether one was before it. -/
def separatorAfter (before : Bool) (s : List Char) : Bool :=
  match s.getLast? with
  | none => before
  | some c => isWordSeparator c

theorem separatorAfter_cons (before : Bool) (c : Char) (s : List Char) :
    separatorAfter before (c :: s) = separatorAfter (isWordSeparator c) s := by
  unfold separatorAfter
  rw [List.getLast?_cons]
  cases s.getLast? <;> rfl

/-- Two pieces of a name are normalized one after the other. -/
theorem normalizeFrom_append (afterSeparator : Bool) (a b : List Char) :
    normalizeFrom afterSeparator (a ++ b) =
      normalizeFrom afterSeparator a ++ normalizeFrom (separatorAfter afterSeparator a) b := by
  induction a generalizing afterSeparator with
  | nil => rfl
  | cons c a ih =>
    rw [separatorAfter_cons, List.cons_append, normalizeFrom, normalizeFrom]
    by_cases separator : isWordSeparator c = true
    · cases afterSeparator <;> simp [separator, ih]
    · simp [separator, ih]

/-- The start of a name is normalized to the start of the whole. -/
theorem normalizeName_prefix (a b : List Char) : normalizeName a <+: normalizeName (a ++ b) :=
  ⟨normalizeFrom (separatorAfter false a) b, (normalizeFrom_append false a b).symm⟩

end ReleaseGate.Naming
