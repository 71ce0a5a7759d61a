import ReleaseGate.Text.Utf8

/-!
# Texts and their bytes

Each character is encoded in one to four bytes, and reading them gives that character and ends where its bytes end. So the bytes
of a text are read as that text (`decode_encode`), and texts are in the order of their bytes (`encode_lt_encode`).
-/

namespace ReleaseGate.Text.Utf8

/-! ## Byte arrays as lists -/

theorem toList_loop_eq (bytes : ByteArray) (i : Nat) (read : List UInt8) :
    ByteArray.toList.loop bytes i read = read.reverse ++ bytes.data.toList.drop i := by
  fun_induction ByteArray.toList.loop bytes i read with
  | case1 i read inside ih =>
    have inList : i < bytes.data.toList.length := by simpa using inside
    have here : bytes.get! i = bytes.data.toList[i] := by
      simp [ByteArray.get!, inside]
    rw [ih, List.drop_eq_getElem_cons inList, here]
    simp
  | case2 i read outside =>
    have nothing : bytes.data.toList.drop i = [] := List.drop_eq_nil_of_le (by simpa using Nat.le_of_not_lt outside)
    simp [nothing]

/-- The bytes of a text are those of its characters, one after another. -/
theorem encode_eq (s : String) : encode s = s.toList.flatMap String.utf8EncodeChar := by
  have bytes : s.toByteArray = s.toList.utf8Encode := by
    rw [← String.toByteArray_ofList, String.ofList_toList]
  show s.toByteArray.toList = _
  rw [bytes, ByteArray.toList, toList_loop_eq, List.utf8Encode, List.toList_data_toByteArray]
  simp

/-! ## Characters -/

theorem toNat_ofNat {n : Nat} (small : n < 256) : (UInt8.ofNat n).toNat = n := by
  rw [UInt8.toNat_ofNat', Nat.mod_eq_of_lt small]

/-- One more byte of a character adds its six bits. -/
theorem continueChar_cons (bits k : Nat) {low high n : Nat} {b : UInt8} (rest : List UInt8) (byte : b.toNat = n % 64 + 128)
    (above : low ≤ n % 64 + 128) (below : n % 64 + 128 ≤ high) :
    continueChar bits (k + 1) low high (b :: rest) =
      ((continueChar (bits * 64 + n % 64) k 0x80 0xbf rest).1, (continueChar (bits * 64 + n % 64) k 0x80 0xbf rest).2 + 1) := by
  simp [continueChar, byte, above, below]

theorem step_of_lead {b : UInt8} {l : Lead} (first : lead? b = some l) (rest : List UInt8) :
    step b rest = continueChar l.bits l.following l.low l.high rest := by
  have high : ¬b.toNat < 0x80 := by
    intro low
    have none_fits : lead? b = none := by
      have bound : ¬0xc2 ≤ b.toNat ∧ ¬0xe1 ≤ b.toNat ∧ ¬0xf1 ≤ b.toNat := by omega
      have apart : b.toNat ≠ 0xe0 ∧ b.toNat ≠ 0xed ∧ b.toNat ≠ 0xf0 ∧ b.toNat ≠ 0xf4 := by omega
      simp [lead?, bound, apart]
    rw [none_fits] at first
    cases first
  unfold step
  rw [if_neg high, first]

/-- The first of two bytes. -/
theorem lead?_two {b : UInt8} {n : Nat} (byte : b.toNat = n / 64 % 32 + 192) (low : 0x80 ≤ n) (high : n < 0x800) :
    lead? b = some ⟨1, n / 64, 0x80, 0xbf⟩ := by
  have bits : b.toNat = n / 64 + 192 := by omega
  have within : 2 ≤ n / 64 ∧ n / 64 ≤ 31 := by omega
  grind [lead?]

/-- The first of three bytes, and the bounds for the second. -/
theorem exists_lead?_three {b : UInt8} {n : Nat} (byte : b.toNat = n / 4096 % 16 + 224) (low : 0x800 ≤ n) (high : n < 0x10000)
    (noSurrogate : n < 0xd800 ∨ 0xdfff < n) :
    ∃ least most, lead? b = some ⟨2, n / 4096, least, most⟩ ∧ least ≤ n / 64 % 64 + 128 ∧ n / 64 % 64 + 128 ≤ most := by
  have bits : b.toNat = n / 4096 + 224 := by omega
  by_cases first : n / 4096 = 0
  · exact ⟨0xa0, 0xbf, by grind [lead?], by omega, by omega⟩
  by_cases surrogates : n / 4096 = 13
  · exact ⟨0x80, 0x9f, by grind [lead?], by omega, by omega⟩
  · have within : n / 4096 ≤ 15 := by omega
    exact ⟨0x80, 0xbf, by grind [lead?], by omega, by omega⟩

/-- The first of four bytes, and the bounds for the second. -/
theorem exists_lead?_four {b : UInt8} {n : Nat} (byte : b.toNat = n / 262144 % 8 + 240) (low : 0x10000 ≤ n)
    (high : n < 0x110000) :
    ∃ least most, lead? b = some ⟨3, n / 262144, least, most⟩ ∧ least ≤ n / 4096 % 64 + 128 ∧ n / 4096 % 64 + 128 ≤ most := by
  have bits : b.toNat = n / 262144 + 240 := by omega
  by_cases first : n / 262144 = 0
  · exact ⟨0x90, 0xbf, by grind [lead?], by omega, by omega⟩
  by_cases last : n / 262144 = 4
  · exact ⟨0x80, 0x8f, by grind [lead?], by omega, by omega⟩
  · have within : n / 262144 ≤ 3 := by omega
    exact ⟨0x80, 0xbf, by grind [lead?], by omega, by omega⟩

/-- The bytes of a character are read as that character, whatever follows them. -/
theorem exists_encodeChar (c : Char) :
    ∃ b more, String.utf8EncodeChar c = b :: more ∧ ∀ rest, step b (more ++ rest) = (some c, more.length) := by
  have valid : c.toNat < 0xd800 ∨ 0xdfff < c.toNat ∧ c.toNat < 0x110000 := c.valid
  have same : Char.ofNat c.toNat = c := Char.ofNat_toNat c
  have code : c.val.toNat = c.toNat := rfl
  unfold String.utf8EncodeChar
  rw [code]
  generalize c.toNat = n at *
  have tail : ∀ m, (UInt8.ofNat (m % 64 + 128)).toNat = m % 64 + 128 := fun m => toNat_ofNat (by omega)
  have least_tail : ∀ m, 0x80 ≤ m % 64 + 128 := by omega
  have most_tail : ∀ m, m % 64 + 128 ≤ 0xbf := by omega
  by_cases one : n ≤ 0x7f
  · refine ⟨UInt8.ofNat n, [], if_pos one, fun rest => ?_⟩
    have byte : (UInt8.ofNat n).toNat = n := toNat_ofNat (by omega)
    unfold step
    rw [byte, if_pos (by omega), same]
    rfl
  by_cases two : n ≤ 0x7ff
  · refine ⟨_, _, (if_neg one).trans (if_pos two), fun rest => ?_⟩
    have first := lead?_two (toNat_ofNat (by omega)) (by omega) (by omega : n < 0x800)
    rw [step_of_lead first, List.cons_append, continueChar_cons _ _ _ (tail n) (least_tail n) (most_tail n), continueChar]
    have whole : n / 64 * 64 + n % 64 = n := by omega
    rw [whole, same]
    rfl
  by_cases three : n ≤ 0xffff
  · refine ⟨_, _, (if_neg one).trans ((if_neg two).trans (if_pos three)), fun rest => ?_⟩
    obtain ⟨least, most, first, above, below⟩ := exists_lead?_three (toNat_ofNat (by omega)) (by omega) (by omega : n < 0x10000)
      (by omega)
    rw [step_of_lead first, List.cons_append, continueChar_cons _ _ _ (tail (n / 64)) above below, List.cons_append,
      continueChar_cons _ _ _ (tail n) (least_tail n) (most_tail n), continueChar]
    have whole : (n / 4096 * 64 + n / 64 % 64) * 64 + n % 64 = n := by omega
    rw [whole, same]
    rfl
  · refine ⟨_, _, (if_neg one).trans ((if_neg two).trans (if_neg three)), fun rest => ?_⟩
    obtain ⟨least, most, first, above, below⟩ := exists_lead?_four (toNat_ofNat (by omega)) (by omega) (by omega : n < 0x110000)
    rw [step_of_lead first, List.cons_append, continueChar_cons _ _ _ (tail (n / 4096)) above below, List.cons_append,
      continueChar_cons _ _ _ (tail (n / 64)) (least_tail _) (most_tail _), List.cons_append,
      continueChar_cons _ _ _ (tail n) (least_tail n) (most_tail n), continueChar]
    have whole : ((n / 262144 * 64 + n / 4096 % 64) * 64 + n / 64 % 64) * 64 + n % 64 = n := by omega
    rw [whole, same]
    rfl

/-! ## Texts -/

/-- Bytes that belong to a character that was read are passed over. -/
theorem scan_append (more rest : List UInt8) : scan more.length (more ++ rest) = scan 0 rest := by
  induction more with
  | nil => rfl
  | cons b more ih => exact ih

theorem scan_encodeChar (c : Char) (rest : List UInt8) : scan 0 (String.utf8EncodeChar c ++ rest) = some c :: scan 0 rest := by
  obtain ⟨b, more, bytes, read⟩ := exists_encodeChar c
  rw [bytes, List.cons_append, scan, read rest]
  show some c :: scan more.length (more ++ rest) = _
  rw [scan_append]

theorem scan_encode (cs : List Char) : scan 0 (cs.flatMap String.utf8EncodeChar) = cs.map some := by
  induction cs with
  | nil => rfl
  | cons c cs ih => rw [List.flatMap_cons, scan_encodeChar, ih, List.map_cons]

/-- The bytes of a text are read as that text. -/
@[simp] theorem decode_encode (s : String) : decode (encode s) = some s := by
  have all : (s.toList.map some).mapM id = some s.toList := by
    induction s.toList with
    | nil => rfl
    | cons c cs ih => simp [ih]
  unfold decode
  rw [encode_eq, scan_encode, all]
  simp

/-! ## The order of the bytes -/

/-- Numbers are in the order of their digits, from the highest on. -/
theorem digits_lt {m n : Nat} (less : m < n) (bound : n < 0x110000) :
    m / 262144 % 8 < n / 262144 % 8 ∨ m / 262144 % 8 = n / 262144 % 8 ∧
      (m / 4096 % 64 < n / 4096 % 64 ∨ m / 4096 % 64 = n / 4096 % 64 ∧
        (m / 64 % 64 < n / 64 % 64 ∨ m / 64 % 64 = n / 64 % 64 ∧ m % 64 < n % 64)) := by
  have digits : ∀ k, k = ((k / 262144 * 64 + k / 4096 % 64) * 64 + k / 64 % 64) * 64 + k % 64 := by
    intro k
    have first : k / 64 / 64 = k / 4096 := Nat.div_div_eq_div_mul ..
    have second : k / 4096 / 64 = k / 262144 := Nat.div_div_eq_div_mul ..
    omega
  have hm := digits m
  have hn := digits n
  have lead : m / 262144 % 8 = m / 262144 ∧ n / 262144 % 8 = n / 262144 := by omega
  have small : ∀ k, k % 64 < 64 := fun k => Nat.mod_lt k (by decide)
  have := small (m / 4096)
  have := small (n / 4096)
  have := small (m / 64)
  have := small (n / 64)
  have := small m
  have := small n
  rw [lead.1, lead.2]
  generalize m / 262144 = a at *
  generalize n / 262144 = a' at *
  generalize m / 4096 % 64 = b at *
  generalize n / 4096 % 64 = b' at *
  generalize m / 64 % 64 = c at *
  generalize n / 64 % 64 = c' at *
  generalize m % 64 = d at *
  generalize n % 64 = d' at *
  omega

/-- The bytes of characters are in the order of the characters, whatever follows them. -/
theorem encodeChar_lt {c d : Char} (h : c < d) (r r' : List UInt8) :
    String.utf8EncodeChar c ++ r < String.utf8EncodeChar d ++ r' := by
  have less : c.val.toNat < d.val.toNat := h
  have bound : d.val.toNat < 0x110000 := by
    rcases d.valid with low | ⟨-, high⟩
    · exact Nat.lt_trans low (by decide)
    · exact high
  unfold String.utf8EncodeChar
  generalize c.val.toNat = m at *
  generalize d.val.toNat = n at *
  have digits := digits_lt less bound
  -- one case for each two numbers of bytes; the bytes are digits of the number, the lead byte with a mark of how many there are
  dsimp only
  repeat' split
  all_goals
    simp (disch := omega) only [List.cons_append, List.nil_append, List.cons_lt_cons_iff, UInt8.lt_iff_toNat_lt,
      ← UInt8.toNat_inj, toNat_ofNat]
    omega

/-- The bytes of texts are in the order of the texts. -/
theorem encode_lt_encode {s t : String} (h : s < t) : encode s < encode t := by
  have lists : List.Lex (· < ·) s.toList t.toList := String.lt_iff.mp h
  rw [encode_eq, encode_eq]
  generalize s.toList = xs at lists ⊢
  generalize t.toList = ys at lists ⊢
  induction lists with
  | @nil c rest =>
    obtain ⟨b, more, whole, -⟩ := exists_encodeChar c
    rw [List.flatMap_cons, whole, List.cons_append]
    exact List.nil_lt_cons b _
  | rel before => exact encodeChar_lt before _ _
  | cons _ ih =>
    rw [List.flatMap_cons, List.flatMap_cons]
    exact List.append_left_lt ih

end ReleaseGate.Text.Utf8
