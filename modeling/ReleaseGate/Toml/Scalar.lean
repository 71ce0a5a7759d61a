import ReleaseGate.Timestamp.Calendar
import ReleaseGate.Toml.Value

/-!
# Numbers, dates and truth values of TOML

A value that is neither a string nor put between brackets is one word. These functions say which words are integers, floats,
dates and times of day: underscores stand between digits only, integers fit 64 bits, floats are finite unless spelled otherwise,
and a date is one of the calendar.
-/

namespace ReleaseGate.Toml

/-- The digits of a number without the underscores between them: `none` when it begins or ends with one, or has two in a row. -/
def groupedDigits? (isDigit : Char → Bool) (s : List Char) : Option (List Char) :=
  let groups := Text.fields '_' s
  if groups.all fun group => !group.isEmpty && group.all isDigit then some groups.flatten else none

/-- The value of some digits in a base. -/
def valueIn (base : Nat) (digits : List Char) : Nat :=
  digits.foldl (fun n c => n * base + ((List.range base).find? fun d => Nat.digitChar d == c.toLower).getD 0) 0

/-- A word without the sign it may begin with, and whether that was a minus. -/
def unsigned (s : List Char) : Bool × List Char :=
  match s with
  | '-' :: rest => (true, rest)
  | '+' :: rest => (false, rest)
  | s => (false, s)

/-- The digits of a decimal number without leading zeros. -/
def decimalDigits? (s : List Char) : Option (List Char) :=
  (groupedDigits? Char.isDigit s).filter fun digits => digits.length == 1 || digits.head? != some '0'

/-- Whether a character is a digit in a base. -/
def isDigitIn (base : Nat) (c : Char) : Bool := (List.range base).any fun d => Nat.digitChar d == c.toLower

/-- The greatest integer of 64 bits. -/
def maxInteger : Nat := 9223372036854775807

/-- Whether a word is a number in a base other than ten, without its sign for the base. -/
def isBasedInteger (base : Nat) (s : List Char) : Bool :=
  (groupedDigits? (isDigitIn base) s).any fun digits => valueIn base digits ≤ maxInteger

/-- Whether a word is an integer. -/
def isInteger (s : List Char) : Bool :=
  match s with
  | '0' :: 'x' :: digits => isBasedInteger 16 digits
  | '0' :: 'o' :: digits => isBasedInteger 8 digits
  | '0' :: 'b' :: digits => isBasedInteger 2 digits
  | s =>
    let (negative, rest) := unsigned s
    (decimalDigits? rest).any fun digits => valueIn 10 digits ≤ (if negative then maxInteger + 1 else maxInteger)

/-- The least number that is too great for a float of 64 bits. -/
def floatLimit : Nat := Nat.pow 2 1024 - Nat.pow 2 970

/-- Whether `m · 10 ^ e` is less than `floatLimit`. The number of digits alone decides, unless it is that of the limit. -/
def isFinite (m : Nat) (e : Int) : Bool :=
  let size : Int := (Nat.toDigits 10 m).length + e
  if m == 0 || size < 309 then true
  else if 310 < size then false
  else m * Nat.pow 10 e.toNat < floatLimit * Nat.pow 10 (-e).toNat

/-- Whether a number with some digits before and after the point and some exponent is not too great. A negative one never is. -/
def isInRange (negative : Bool) (whole fraction : List Char) (exponentNegative : Bool) (exponent : List Char) : Bool :=
  let e : Int := valueIn 10 exponent
  negative || isFinite (valueIn 10 (whole ++ fraction)) ((if exponentNegative then -e else e) - fraction.length)

/-- Whether a word is a float. -/
def isFloat (s : List Char) : Bool :=
  let (negative, rest) := unsigned s
  if rest == ['i', 'n', 'f'] || rest == ['n', 'a', 'n'] then true
  else
    let (mantissa, exponent) :=
      match Text.cutAtFirst (fun c => c == 'e' || c == 'E') rest with
      | some (before, _, after) => (before, some after)
      | none => (rest, none)
    let (whole, fraction) :=
      match Text.cutAtFirst (· == '.') mantissa with
      | some (before, _, after) => (before, some after)
      | none => (mantissa, none)
    let (exponentNegative, exponentDigits) := unsigned (exponent.getD ['0'])
    match decimalDigits? whole, groupedDigits? Char.isDigit (fraction.getD ['0']), groupedDigits? Char.isDigit exponentDigits with
    | some whole, some fraction, some exponent' =>
      (exponent.isSome || mantissa.contains '.') && isInRange negative whole fraction exponentNegative exponent'
    | _, _, _ => false

/-- The number that a field of exactly so many digits holds. -/
def fixed? (width : Nat) (s : List Char) : Option Nat :=
  if s.length == width && s.all Char.isDigit then some (valueIn 10 s) else none

/-- Whether a word is a date of the calendar. -/
def isDate (s : List Char) : Bool :=
  match (Text.fields '-' s) with
  | [year, month, day] =>
    match fixed? 4 year, fixed? 2 month, fixed? 2 day with
    | some year, some month, some day => 1 ≤ month && month ≤ 12 && 1 ≤ day && day ≤ Calendar.daysInMonth year month
    | _, _, _ => false
  | _ => false

/-- Whether a word is a number of hours and one of minutes. -/
def isHourMinute (s : List Char) : Bool :=
  match Text.fields ':' s with
  | [hour, minute] => (fixed? 2 hour).any (· ≤ 23) && (fixed? 2 minute).any (· ≤ 59)
  | _ => false

/-- Whether a word is a time of day. -/
def isTime (s : List Char) : Bool :=
  let (whole, fraction) :=
    match Text.cutAtFirst (· == '.') s with
    | some (before, _, after) => (before, after)
    | none => (s, ['0'])
  !fraction.isEmpty && fraction.all Char.isDigit
    && match Text.fields ':' whole with
      | [hour, minute, second] =>
        (fixed? 2 hour).any (· ≤ 23) && (fixed? 2 minute).any (· ≤ 59) && (fixed? 2 second).any (· ≤ 60)
      | _ => false

/-- A time of day without the offset that may follow it, if that is one. -/
def withoutOffset? (s : List Char) : Option (List Char) :=
  match s.getLast? with
  | some 'Z' => some s.dropLast
  | some 'z' => some s.dropLast
  | _ =>
    match Text.cutAtFirst (fun c => c == '+' || c == '-') s with
    | some (before, _, after) => if isHourMinute after then some before else none
    | none => some s

/-- Whether a word is a date, a time of day, or both. -/
def isMoment (s : List Char) : Bool :=
  isDate s || isTime s
    || (isDate (s.take 10) && ['T', 't', ' '].contains (s.getD 10 '?') && (withoutOffset? (s.drop 11)).any isTime)

/-- The value that a word is. -/
def scalar? (s : List Char) : Option Value :=
  if s == ['t', 'r', 'u', 'e'] then some (.boolean true)
  else if s == ['f', 'a', 'l', 's', 'e'] then some (.boolean false)
  else if isInteger s || isFloat s then some (.number (String.ofList s))
  else if isMoment s then some (.moment (String.ofList s))
  else none

/-- Whether a character can stand in such a word. -/
def isWordChar (c : Char) : Bool := c.isAlphanum || ['_', '+', '-', '.', ':'].contains c

/-- The first word of a text, and what follows. A blank between a date and a time of day belongs to the word. -/
def cutWord (s : List Char) : List Char × List Char :=
  let word := s.takeWhile isWordChar
  match isDate word, s.drop word.length with
  | true, ' ' :: h :: m :: ':' :: rest =>
    if h.isDigit && m.isDigit then
      let time := (h :: m :: ':' :: rest).takeWhile isWordChar
      (word ++ ' ' :: time, (h :: m :: ':' :: rest).drop time.length)
    else (word, ' ' :: h :: m :: ':' :: rest)
  | _, rest => (word, rest)

end ReleaseGate.Toml
