import ReleaseGate.Json.Value

/-!
# Numbers as they are shown

A number that is no integer of 64 bits stands for the nearest number with 53 binary digits, and is shown by the fewest decimal
digits that name it among those: the nearest of the shortest. Up to the exponent sixteen it is shown with a point, beyond with
an exponent.
-/

namespace ReleaseGate.Json.Number

/-- A positive binary number: its digits and its exponent. -/
structure Binary where
  digits : Nat
  exponent : Int
  deriving DecidableEq, Repr

/-- A quotient rounded to the nearest natural number; a half goes to the even neighbour. -/
def roundDiv (a b : Nat) : Nat :=
  let q := a / b
  let r := a % b
  if 2 * r < b then q else if 2 * r > b then q + 1 else if q % 2 == 0 then q else q + 1

/-- A power of two as a fraction. -/
def powerOfTwo (e : Int) : Nat × Nat := if 0 ≤ e then (Nat.pow 2 e.toNat, 1) else (1, Nat.pow 2 (-e).toNat)

/-- The smallest exponent of a binary number. -/
def minExponent : Int := -1074

/-- The largest exponent of a binary number. -/
def maxExponent : Int := 971

/-- The binary number nearest to a positive fraction, or none when it is too large. -/
def nearest? (numerator denominator : Nat) : Option Binary :=
  let estimate : Int := (Nat.log2 numerator : Int) - (Nat.log2 denominator : Int) - 52
  let scaled (e : Int) : Nat × Nat :=
    let (up, down) := powerOfTwo e
    (numerator * down, denominator * up)
  let exponent :=
    let (a, b) := scaled estimate
    max minExponent (if a / b < Nat.pow 2 52 then estimate - 1 else if a / b ≥ Nat.pow 2 53 then estimate + 1 else estimate)
  let (a, b) := scaled exponent
  let digits := roundDiv a b
  let found : Binary := if digits == Nat.pow 2 53 then ⟨Nat.pow 2 52, exponent + 1⟩ else ⟨digits, exponent⟩
  if found.exponent > maxExponent then none else some found

/-- Decimal digits with the exponent of the last of them. -/
structure Decimal where
  digits : Nat
  exponent : Int
  deriving DecidableEq, Repr

/-- Whether the binary number nearest to a decimal one is a given one. -/
def names (b : Binary) (d : Decimal) : Bool :=
  let (up, down) := if 0 ≤ d.exponent then (Nat.pow 10 d.exponent.toNat, 1) else (1, Nat.pow 10 (-d.exponent).toNat)
  d.digits != 0 && nearest? (d.digits * up) down == some b

/-- The number of decimal digits that always suffice. -/
def enoughDigits : Nat := 17

/-- The decimal numbers next to a fraction that have a given exponent, the nearer one first. -/
def neighbours (a b : Nat) (exponent : Int) : List Decimal :=
  let (a, b) := if 0 ≤ exponent then (a, b * Nat.pow 10 exponent.toNat) else (a * Nat.pow 10 (-exponent).toNat, b)
  let below := a / b
  let both := [⟨below, exponent⟩, ⟨below + 1, exponent⟩]
  if 2 * (a % b) ≤ b then both else both.reverse

/-- The shortest decimal number that names a binary one. -/
def shortest (x : Binary) : Decimal :=
  let (up, down) := powerOfTwo x.exponent
  let a := x.digits * up
  let top : Int := (Nat.toDigits 10 (a / down)).length
  let leading : Int := if a < down then 1 - (Nat.toDigits 10 (down / a)).length else top
  let candidates := (List.range (enoughDigits + 1)).flatMap fun n => neighbours a down (leading - (n : Nat))
  (candidates.find? (names x)).getD ⟨0, 0⟩

/-- A decimal number without zeros at its end; at most `fuel` zeros are dropped. -/
def trimZeros : Nat → Decimal → Decimal
  | 0, d => d
  | fuel + 1, d => if d.digits != 0 && d.digits % 10 == 0 then trimZeros fuel ⟨d.digits / 10, d.exponent + 1⟩ else d

/-- How a positive decimal number is laid out. -/
def layout (d : Decimal) : List Char :=
  let d := trimZeros enoughDigits d
  let digits := Nat.toDigits 10 d.digits
  let point : Int := digits.length + d.exponent
  if 0 ≤ d.exponent && point ≤ 16 then digits ++ List.replicate d.exponent.toNat '0' ++ ['.', '0']
  else if 0 < point && point ≤ 16 then digits.take point.toNat ++ '.' :: digits.drop point.toNat
  else if -5 < point && point ≤ 0 then '0' :: '.' :: List.replicate (-point).toNat '0' ++ digits
  else
    let fraction := if digits.length == 1 then [] else '.' :: digits.drop 1
    digits.take 1 ++ fraction ++ 'e' :: (toString (point - 1)).toList

/-- The value of some decimal digits. -/
def digitsValue (ds : List Char) : Nat := ds.foldl (fun n d => n * 10 + (d.toNat - '0'.toNat)) 0

/-- The parts of a numeral: whether it is negative, its digits, and the exponent of the last of them; whether it has neither a
fraction nor an exponent. -/
structure Parts where
  isNegative : Bool
  digits : Nat
  exponent : Int
  isInteger : Bool
  deriving Repr

/-- The parts of a numeral. -/
def partsOf (numeral : List Char) : Parts :=
  let (isNegative, unsigned) :=
    match numeral with
    | '-' :: rest => (true, rest)
    | s => (false, s)
  let whole := unsigned.takeWhile Char.isDigit
  let (fraction, rest) :=
    match unsigned.drop whole.length with
    | '.' :: rest => (rest.takeWhile Char.isDigit, rest.dropWhile Char.isDigit)
    | rest => ([], rest)
  let exponent : Int :=
    match rest with
    | _ :: '-' :: ds => -(digitsValue ds : Int)
    | _ :: '+' :: ds => digitsValue ds
    | _ :: ds => digitsValue ds
    | [] => 0
  { isNegative, digits := digitsValue (whole ++ fraction), exponent := exponent - fraction.length
    isInteger := fraction.isEmpty && rest.isEmpty }

/-- Decimal exponents beyond which a number is too large or nothing. -/
def exponentLimit : Int := 400

/-- The nearest binary number to the size of a numeral: `none` when it is too large, and nothing inside when it is zero. -/
def sizeOf? (p : Parts) : Option (Option Binary) :=
  let leading : Int := (Nat.toDigits 10 p.digits).length + p.exponent
  if p.digits == 0 || leading < -exponentLimit then some none
  else if leading > exponentLimit then none
  else
    let (up, down) := if 0 ≤ p.exponent then (Nat.pow 10 p.exponent.toNat, 1) else (1, Nat.pow 10 (-p.exponent).toNat)
    (nearest? (p.digits * up) down).map fun b => if b.digits == 0 then none else some b

/-- Whether a numeral is an integer that fits into 64 bits, with a sign or without one. -/
def isWord (p : Parts) : Bool :=
  p.isInteger && (if p.isNegative then 0 < p.digits && p.digits ≤ Nat.pow 2 63 else p.digits < Nat.pow 2 64)

/-- Whether a numeral is too large to stand for a number. -/
def isTooLarge (numeral : List Char) : Bool :=
  let p := partsOf numeral
  !isWord p && (sizeOf? p).isNone

/-- How the number that a numeral stands for is shown. -/
def shown (numeral : List Char) : String :=
  let p := partsOf numeral
  let sign := if p.isNegative then "-" else ""
  if isWord p then s!"{sign}{p.digits}"
  else
    match sizeOf? p with
    | some (some b) => sign ++ String.ofList (layout (shortest b))
    | _ => sign ++ "0.0"

end ReleaseGate.Json.Number
