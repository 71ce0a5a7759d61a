import ReleaseGate.Text.Lines
import ReleaseGate.Timestamp.Calendar

/-!
# Timestamps

A timestamp is a date and a time of day in UTC, to the nanosecond; second 60 is a leap second. It is written as RFC 3339 with a
`Z` and the fewest fraction digits of 0, 3, 6 or 9 that are exact. Reading is more lenient: numbers need no padding, blanks may
stand between the components, and any offset is taken into account.
-/

namespace ReleaseGate

/-- A date and a time of day. -/
structure DateTime where
  year : Int
  month : Nat
  day : Nat
  hour : Nat
  minute : Nat
  second : Nat
  nanosecond : Nat
  deriving DecidableEq, Repr

namespace DateTime

/-- The first year that is represented. -/
def minYear : Int := -262143

/-- The last year that is represented. -/
def maxYear : Int := 262142

/-- Whether there is such a date and such a time of day. -/
def isValid (t : DateTime) : Bool :=
  minYear ≤ t.year && t.year ≤ maxYear && 1 ≤ t.month && t.month ≤ 12 && 1 ≤ t.day && t.day ≤ Calendar.daysInMonth t.year t.month
    && t.hour < 24 && t.minute < 60 && t.second ≤ 60 && t.nanosecond < 1000000000

/-- A number in decimal, filled up with zeros on the left. -/
def padded (width n : Nat) : List Char :=
  let digits := Nat.toDigits 10 n
  List.replicate (width - digits.length) '0' ++ digits

/-- A year: four digits, or a sign and at least four digits when it is before year 0 or after year 9999. -/
def printYear (year : Int) : List Char :=
  if 0 ≤ year && year ≤ 9999 then padded 4 year.toNat
  else (if year < 0 then '-' else '+') :: padded 4 year.natAbs

/-- A fraction of a second: nothing, or a point and three, six or nine digits. -/
def printFraction (nanosecond : Nat) : List Char :=
  if nanosecond == 0 then []
  else if nanosecond % 1000000 == 0 then '.' :: padded 3 (nanosecond / 1000000)
  else if nanosecond % 1000 == 0 then '.' :: padded 6 (nanosecond / 1000)
  else '.' :: padded 9 nanosecond

/-- A date and time of day in UTC, as RFC 3339 has it. -/
def print (t : DateTime) : String :=
  String.ofList
    (printYear t.year ++ '-' :: padded 2 t.month ++ '-' :: padded 2 t.day ++ 'T' :: padded 2 t.hour ++ ':' :: padded 2 t.minute
      ++ ':' :: padded 2 t.second ++ printFraction t.nanosecond ++ ['Z'])

/-- The value of some digits. -/
def digitsValue (ds : List Char) : Nat := ds.foldl (fun n d => n * 10 + (d.toNat - '0'.toNat)) 0

/-- A number of at most `width` digits after blanks, and what follows it. -/
def readNumber? (width : Nat) (s : List Char) : Option (Nat × List Char) :=
  let s := Text.trimStart s
  let digits := (s.take width).takeWhile Char.isDigit
  if digits.isEmpty then none else some (digitsValue digits, s.drop digits.length)

/-- A year after blanks: with a sign it may have any number of digits, without one at most four. -/
def readYear? (s : List Char) : Option (Int × List Char) :=
  match Text.trimStart s with
  | '-' :: rest =>
    if rest.head?.any Char.isDigit then (readNumber? rest.length rest).map fun (n, r) => (-(n : Int), r) else none
  | '+' :: rest =>
    if rest.head?.any Char.isDigit then (readNumber? rest.length rest).map fun (n, r) => ((n : Int), r) else none
  | s => (readNumber? 4 s).map fun (n, r) => ((n : Int), r)

/-- What follows a character, which blanks may precede. -/
def afterMark? (mark : Char) (s : List Char) : Option (List Char) :=
  match Text.trimStart s with
  | c :: rest => if c == mark then some rest else none
  | [] => none

/-- The nanoseconds of a fraction of a second, of which digits after the ninth are dropped, and what follows. -/
def readFraction? : List Char → Option (Nat × List Char)
  | '.' :: rest =>
    let digits := rest.takeWhile Char.isDigit
    let kept := digits.take 9
    if digits.isEmpty then none
    else some (digitsValue kept * Nat.pow 10 (9 - kept.length), rest.drop digits.length)
  | s => some (0, s)

/-- An offset from UTC in minutes, and what follows: `Z`, `UTC`, or a sign with two digits of hours and two of minutes. -/
def readOffset? (s : List Char) : Option (Int × List Char) :=
  let signed (sign : Int) (s : List Char) : Option (Int × List Char) :=
    match s with
    | h :: h' :: rest =>
      if h.isDigit && h'.isDigit then
        match rest.dropWhile fun c => c == ':' || Text.isBlank c with
        | m :: m' :: rest =>
          if m.isDigit && m'.isDigit && m < '6' then
            some (sign * (digitsValue [h, h'] * 60 + digitsValue [m, m'] : Nat), rest)
          else none
        | _ => none
      else none
    | _ => none
  match s with
  | 'Z' :: rest => some (0, rest)
  | 'z' :: rest => some (0, rest)
  | '+' :: rest => signed 1 rest
  | '-' :: rest => signed (-1) rest
  | '−' :: rest => signed (-1) rest
  | a :: b :: c :: rest => if [a, b, c].map Char.toLower == ['u', 't', 'c'] then some (0, rest) else none
  | _ => none

/-- The number of minutes from the first of January 1970 to a minute. -/
def minutes (t : DateTime) : Int :=
  Calendar.dayNumber t.year t.month t.day * 1440 + t.hour * 60 + t.minute

/-- The point of time in the minute that lies so many minutes after the first of January 1970. -/
def ofMinutes (minutes : Int) (second nanosecond : Nat) : DateTime :=
  let (year, month, day) := Calendar.dateOf (minutes / 1440)
  let ofDay := (minutes % 1440).toNat
  { year, month, day, hour := ofDay / 60, minute := ofDay % 60, second, nanosecond }

/-- The same point in time, when a clock that is ahead of UTC by some minutes shows it as `t`. -/
def fromOffset (t : DateTime) (offset : Int) : DateTime :=
  if offset == 0 then t else ofMinutes (t.minutes - offset) t.second t.nanosecond

/-- The components of a date and time of day, the greater units first. -/
def components (t : DateTime) : List Int :=
  [t.year, t.month, t.day, t.hour, t.minute, t.second, t.nanosecond]

/-- Whether some numbers are others or come before them, the first numbers counting most. -/
def isInOrder : List Int → List Int → Bool
  | a :: as, b :: bs => a < b || (a == b && isInOrder as bs)
  | as, _ => as.isEmpty

/-- The nanoseconds since the first of January 1970, where a leap second takes the place of the second after it. -/
def nanoseconds (t : DateTime) : Int :=
  (t.minutes * 60 + t.second) * 1000000000 + t.nanosecond

/-- The seconds of a time of day, a leap second counted as the second before it. -/
def secondOfDay (t : DateTime) : Nat := (t.hour * 60 + t.minute) * 60 + min t.second 59

/-- By how many seconds two points in time lie further apart than their components say, because one is a leap second. -/
def leapAdjustment (later earlier : DateTime) : Int :=
  if earlier.secondOfDay < later.secondOfDay && earlier.second == 60 then 1
  else if later.secondOfDay < earlier.secondOfDay && later.second == 60 then -1
  else 0

end DateTime

/-- A point in time. -/
structure Timestamp where
  /-- The date and the time of day in UTC. -/
  utc : DateTime
  isValid : utc.isValid = true
  deriving DecidableEq, Repr

namespace Timestamp

open DateTime

/-- The point in time at a date and time of day, if there is one. -/
def ofUtc? (t : DateTime) : Option Timestamp := if h : t.isValid = true then some ⟨t, h⟩ else none

/-- A timestamp in RFC 3339. -/
def print (t : Timestamp) : String := t.utc.print

/-- The timestamp that a text names. -/
def parse? (s : String) : Option Timestamp := do
  let (year, s) ← readYear? s.toList
  let (month, s) ← readNumber? 2 (← afterMark? '-' s)
  let (day, s) ← readNumber? 2 (← afterMark? '-' s)
  let s ←
    match s with
    | c :: rest => if c == 'T' || c == 't' || c == ' ' then some rest else none
    | [] => none
  let (hour, s) ← readNumber? 2 s
  let (minute, s) ← readNumber? 2 (← afterMark? ':' s)
  let (second, s) ← readNumber? 2 (← afterMark? ':' s)
  let (nanosecond, s) ← readFraction? s
  let (offset, s) ← readOffset? (Text.trimStart s)
  let shown : DateTime := { year, month, day, hour, minute, second, nanosecond }
  if (Text.trimStart s).isEmpty && shown.isValid && offset.natAbs < 1440 then ofUtc? (shown.fromOffset offset) else none

/-- Whether a timestamp is another or lies before it. -/
def isUpTo (t u : Timestamp) : Bool := isInOrder t.utc.components u.utc.components

/-- The whole milliseconds from one point in time to another, none when it is not later. -/
def millisecondsSince (later earlier : Timestamp) : UInt64 :=
  let apart := later.utc.nanoseconds - earlier.utc.nanoseconds + leapAdjustment later.utc earlier.utc * 1000000000
  (apart.tdiv 1000000).toNat.toUInt64

/-- The point in time some minutes later; there is no later one at the end of the last year. -/
def addMinutes (t : Timestamp) (n : Nat) : Timestamp :=
  (ofUtc? (ofMinutes (t.utc.minutes + n) t.utc.second t.utc.nanosecond)).getD t

/-- The point in time so many nanoseconds after the first of January 1970, if there is one. -/
def ofNanoseconds? (n : Int) : Option Timestamp :=
  ofUtc? (ofMinutes (n / 60000000000) (n / 1000000000 % 60).toNat (n % 1000000000).toNat)

/-- The first of January 1970. -/
def epoch : Timestamp := ⟨⟨1970, 1, 1, 0, 0, 0, 0⟩, by decide⟩

instance : Inhabited Timestamp := ⟨epoch⟩

instance : ToString Timestamp := ⟨print⟩

end Timestamp

end ReleaseGate
