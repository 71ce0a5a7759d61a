import ReleaseGate.Text.LetterCase

/-!
# Decimal numbers

Numbers are written in decimal without leading zeros and read by a fold over their digits. What is written for a number is read as
that number, with zeros before it or without, and digits that begin with no zero are what is written for the number they are read as.
-/

namespace ReleaseGate.Text.Decimal

/-- The number that some digits write after digits that are worth `n`. -/
def valueFrom (n : Nat) (digits : List Char) : Nat := digits.foldl (fun n d => n * 10 + (d.toNat - '0'.toNat)) n

theorem isDigit_of_mem_toDigits {n : Nat} {c : Char} (h : c ∈ Nat.toDigits 10 n) : c.isDigit = true :=
  Nat.isDigit_of_mem_toDigits (by decide) (by decide) h

theorem exists_toDigits_eq_cons (n : Nat) : ∃ d ds, Nat.toDigits 10 n = d :: ds ∧ d.isDigit = true := by
  obtain ⟨d, ds, front⟩ := List.exists_cons_of_ne_nil (Nat.toDigits_ne_nil (n := n) (b := 10))
  exact ⟨d, ds, front, isDigit_of_mem_toDigits (n := n) (by simp [front])⟩

/-- Of all numbers only zero is written with a leading zero. -/
theorem toDigits_ne_zero_cons {n : Nat} (positive : 0 < n) (ds : List Char) : Nat.toDigits 10 n ≠ '0' :: ds := by
  induction n using Nat.strongRecOn generalizing ds with
  | ind n ih =>
    intro e
    by_cases small : n < 10
    · have digit : ∀ i : Fin 10, 0 < i.val → Nat.digitChar i ≠ '0' := by decide
      rw [Nat.toDigits_of_lt_base small] at e
      exact digit ⟨n, small⟩ positive (List.cons.inj e).1
    · obtain ⟨d, more, front, -⟩ := exists_toDigits_eq_cons (n / 10)
      rw [Nat.toDigits_of_base_le (by decide) (Nat.le_of_not_lt small), front, List.cons_append] at e
      obtain rfl : d = '0' := (List.cons.inj e).1
      exact ih (n / 10) (by omega) (by omega) more front

theorem valueFrom_toDigits (n : Nat) : valueFrom 0 (Nat.toDigits 10 n) = n := by
  have same : valueFrom 0 (Nat.toDigits 10 n) = Nat.ofDigitChars 10 (Nat.toDigits 10 n) 0 := by
    rw [Nat.ofDigitChars_eq_foldl]
    unfold valueFrom
    congr
    funext value d
    rw [Nat.mul_comm]
  rw [same, Nat.ofDigitChars_ten_toDigits]

/-- No two numbers are written alike. -/
theorem repr_inj {m n : Nat} (h : m.repr = n.repr) : m = n := by
  have digits : Nat.toDigits 10 m = Nat.toDigits 10 n := by rw [← Nat.toList_repr, h, Nat.toList_repr]
  rw [← valueFrom_toDigits m, digits, valueFrom_toDigits]

/-- Zeros before a number do not count. -/
theorem valueFrom_zeros (k : Nat) (ds : List Char) : valueFrom 0 (List.replicate k '0' ++ ds) = valueFrom 0 ds := by
  induction k with
  | zero => rfl
  | succ k ih => exact ih

/-- A digit is the character of its value. -/
theorem exists_digitChar {c : Char} (digit : c.isDigit = true) : ∃ n < 10, c = Nat.digitChar n ∧ c.toNat - '0'.toNat = n := by
  have bounds := (isDigit_iff c).mp digit
  have chars : ∀ i : Fin 10, (Nat.digitChar i).toNat = 48 + i := by decide
  have code := chars ⟨c.toNat - 48, by omega⟩
  refine ⟨c.toNat - 48, by omega, Char.toNat_inj.mp ?_, rfl⟩
  rw [code]
  show c.toNat = 48 + (c.toNat - 48)
  omega

/-- Digits that begin with no zero are what is written for their number: the last is its last digit, and those before it write the
tenth part. -/
theorem toDigits_valueFrom {c : Char} (ds : List Char) (digits : ∀ d ∈ c :: ds, d.isDigit = true) (leading : c ≠ '0') :
    Nat.toDigits 10 (valueFrom 0 (c :: ds)) = c :: ds ∧ 0 < valueFrom 0 (c :: ds) := by
  obtain ⟨reversed, rfl⟩ : ∃ r, ds = r.reverse := ⟨ds.reverse, by simp⟩
  induction reversed with
  | nil =>
    obtain ⟨n, small, rfl, value⟩ := exists_digitChar (digits c List.mem_cons_self)
    have worth : valueFrom 0 [Nat.digitChar n] = n := by simpa [valueFrom] using value
    have positive : 0 < n := by
      rcases Nat.eq_zero_or_pos n with rfl | positive
      · exact absurd rfl leading
      · exact positive
    rw [List.reverse_nil, worth, Nat.toDigits_of_lt_base small]
    exact ⟨rfl, positive⟩
  | cons d r ih =>
    have split : c :: (d :: r).reverse = c :: r.reverse ++ [d] := by simp
    rw [split] at digits ⊢
    obtain ⟨before, last⟩ := List.forall_mem_append.mp digits
    obtain ⟨written, positive⟩ := ih before
    obtain ⟨n, small, rfl, value⟩ := exists_digitChar (last d List.mem_cons_self)
    have worth : valueFrom 0 (c :: r.reverse ++ [Nat.digitChar n]) = 10 * valueFrom 0 (c :: r.reverse) + n := by
      unfold valueFrom
      rw [List.foldl_append, List.foldl_cons, List.foldl_nil, value, Nat.mul_comm]
    rw [worth, ← Nat.toDigits_append_toDigits (by decide) positive small, written, Nat.toDigits_of_lt_base small]
    exact ⟨rfl, by omega⟩

end ReleaseGate.Text.Decimal
