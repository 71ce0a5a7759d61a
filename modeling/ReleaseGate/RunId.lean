/-!
# Run identifiers

A run is identified by 128 bits, written as 32 hexadecimal digits in groups of 8, 4, 4, 4 and 12. Reading takes either case, the
digits without hyphens, and the hyphenated form in braces or after `urn:uuid:`.
-/

namespace ReleaseGate

/-- An identifier of a run, as its hexadecimal digits. -/
structure RunId where
  digits : List (Fin 16)
  length_digits : digits.length = 32
  deriving DecidableEq, Repr

namespace RunId

/-- The digit with a given value. -/
def printDigit (d : Fin 16) : Char := Nat.digitChar d.val

/-- An identifier in its hyphenated form. -/
def print (id : RunId) : String :=
  let cs := id.digits.map printDigit
  String.ofList
    (cs.take 8 ++ '-' :: (cs.drop 8).take 4 ++ '-' :: (cs.drop 12).take 4 ++ '-' :: (cs.drop 16).take 4 ++ '-' :: cs.drop 20)

/-- The value of a hexadecimal digit of either case. -/
def digit? (c : Char) : Option (Fin 16) :=
  (List.finRange 16).find? fun d => printDigit d == c.toLower

/-- The identifier with the given digits, if there are 32 of them. -/
def ofChars? (cs : List Char) : Option RunId :=
  (cs.mapM digit?).bind fun ds => if h : ds.length = 32 then some ⟨ds, h⟩ else none

/-- The digits of the hyphenated form, if the hyphens stand where they belong. -/
def unhyphenated? (s : List Char) : Option (List Char) :=
  if s.length == 36 && [8, 13, 18, 23].all (fun i => s[i]? == some '-') then
    some (s.take 8 ++ (s.drop 9).take 4 ++ (s.drop 14).take 4 ++ (s.drop 19).take 4 ++ s.drop 24)
  else none

/-- The hyphenated form inside braces or after its scheme. -/
def unwrapped (s : List Char) : List Char :=
  if s.length == 38 && s.head? == some '\x7b' && s.getLast? == some '\x7d' then (s.drop 1).dropLast
  else if s.length == 45 && s.take 9 == "urn:uuid:".toList then s.drop 9
  else s

/-- The identifier that a text names. -/
def parse? (s : String) : Option RunId :=
  let cs := s.toList
  if cs.length == 32 then ofChars? cs else (unhyphenated? (unwrapped cs)).bind ofChars?

/-- The identifier whose digits are all zero. -/
def zero : RunId := ⟨List.replicate 32 0, by decide⟩

/-- A digit of an identifier that random bytes make: the digits that tell how it was made are fixed. -/
def randomDigit (bytes : List UInt8) (i : Nat) : Fin 16 :=
  let byte := (bytes[i / 2]?.getD 0).toNat
  let drawn := if i % 2 == 0 then byte / 16 else byte % 16
  if i == 12 then 4 else if i == 16 then Fin.ofNat 16 (8 + drawn % 4) else Fin.ofNat 16 drawn

/-- The identifier that 16 random bytes make, of version 4. -/
def ofRandom (bytes : List UInt8) : RunId := ⟨(List.range 32).map (randomDigit bytes), by simp⟩

instance : ToString RunId := ⟨print⟩

end RunId

end ReleaseGate
