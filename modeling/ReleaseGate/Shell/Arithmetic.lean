import ReleaseGate.Shell.Format
import ReleaseGate.Shell.Script

/-!
# Arithmetic in scripts

Expressions over integers with the usual operators, from the weakest to the strongest, and variables that stand for their
values. An expression that is none has no value.
-/

namespace ReleaseGate.Shell

/-- The operators on two integers, the weakest first; of those in one group the leftmost comes first. -/
def operatorGroups : List (List String) :=
  [["||"], ["&&"], ["|"], ["^"], ["&"], ["==", "!="], ["<=", ">=", "<", ">"], ["<<", ">>"], ["+", "-"], ["*", "/", "%"]]

/-- The integer that stands for a truth value. -/
def ofTruth (b : Bool) : Int := if b then 1 else 0

/-- The value of an operator. Nothing can be divided by zero. -/
def applied? (operator : String) (a b : Int) : Option Int :=
  match operator with
  | "||" => some (ofTruth (a != 0 || b != 0))
  | "&&" => some (ofTruth (a != 0 && b != 0))
  | "|" => some (a.toNat ||| b.toNat : Nat)
  | "^" => some (a.toNat ^^^ b.toNat : Nat)
  | "&" => some (a.toNat &&& b.toNat : Nat)
  | "==" => some (ofTruth (a == b))
  | "!=" => some (ofTruth (a != b))
  | "<=" => some (ofTruth (a ≤ b))
  | ">=" => some (ofTruth (b ≤ a))
  | "<" => some (ofTruth (a < b))
  | ">" => some (ofTruth (b < a))
  | "<<" => some (a * (Nat.pow 2 (b.toNat % 64) : Nat))
  | ">>" => some (a / (Nat.pow 2 (b.toNat % 64) : Nat))
  | "+" => some (a + b)
  | "-" => some (a - b)
  | "*" => some (a * b)
  | "/" => if b == 0 then none else some (a.tdiv b)
  | "%" => if b == 0 then none else some (a.tmod b)
  | _ => none

/-- The operator of a group at the beginning of a text, and what follows it. A doubled mark is not taken for a single one. -/
def readOperator? (group : List String) (s : List Char) : Reading String :=
  let s := Text.trimStart s
  let isDoubled (o : String) : Bool := o.length == 1 && ["&", "|", "<", ">"].contains o && s[1]? == s[0]?
  (group.find? fun o => o.toList.isPrefixOf s && !isDoubled o).map fun o =>
    (o, s.drop o.length)

mutual

/-- The value of an expression of operators from some group on. -/
def readSum (value : String → Int) (fuel : Nat) (groups : List (List String)) (s : List Char) : Reading Int :=
  match fuel with
  | 0 => none
  | fuel + 1 =>
    match groups with
    | [] => readOperand value fuel (Text.trimStart s)
    | group :: stronger =>
      (readSum value fuel stronger s).bind fun (a, rest) => readMore value fuel a group stronger rest

/-- The value of an expression that begins with a value, with the operators of one group that follow it. -/
def readMore (value : String → Int) (fuel : Nat) (a : Int) (group : List String) (stronger : List (List String)) (s : List Char) :
    Reading Int :=
  match fuel with
  | 0 => none
  | fuel + 1 =>
    match readOperator? group s with
    | none => some (a, s)
    | some (operator, rest) =>
      (readSum value fuel stronger rest).bind fun (b, rest) =>
        (applied? operator a b).bind fun c => readMore value fuel c group stronger rest

/-- The value of an operand. -/
def readOperand (value : String → Int) (fuel : Nat) (s : List Char) : Reading Int :=
  match fuel with
  | 0 => none
  | fuel + 1 =>
    match s with
    | '(' :: rest =>
      (readSum value fuel operatorGroups rest).bind fun (a, rest) =>
        match Text.trimStart rest with
        | ')' :: rest => some (a, rest)
        | _ => none
    | '-' :: rest => (readOperand value fuel (Text.trimStart rest)).map fun (a, rest) => (-a, rest)
    | '+' :: rest => readOperand value fuel (Text.trimStart rest)
    | '!' :: rest => (readOperand value fuel (Text.trimStart rest)).map fun (a, rest) => (ofTruth (a == 0), rest)
    | '$' :: rest => readOperand value fuel rest
    | s =>
      let word := s.takeWhile isNameChar
      if word.isEmpty then none
      else
        let rest := s.drop word.length
        if isName word then some (value (String.ofList word), rest) else (integer? word).map fun n => (n, rest)

end

/-- The value of an expression, given those of its variables. -/
def evaluate? (value : String → Int) (s : List Char) : Option Int :=
  if s.all Text.isBlank then some 0
  else
    (readSum value (32 * s.length + 32) operatorGroups s).bind fun (a, rest) => if rest.all Text.isBlank then some a else none

end ReleaseGate.Shell
