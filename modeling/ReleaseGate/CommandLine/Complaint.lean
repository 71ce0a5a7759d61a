import ReleaseGate.Failure

/-!
# Complaints

How the command line says why it did not do what it was asked: what failed, and below it the causes, one line each, numbered
when there are several.
-/

namespace ReleaseGate.CommandLine

/-- What failed, and why, from the outermost cause to the innermost. -/
structure Complaint where
  what : String
  causes : List String := []
  deriving DecidableEq, Repr

namespace Complaint

/-- The causes of a failure: its own wording, and that of what is behind it. -/
def causesOf (f : Failure) : List String :=
  match f with
  | .io e => [f.message, e.message]
  | .serialization fault => [f.message, fault.message]
  | _ => [f.message]

/-- A complaint about something that failed because of a failure. -/
def because (what : String) (f : Failure) : Complaint := ⟨what, causesOf f⟩

/-- A text with the lines after its first indented. -/
def indented (first rest : String) (text : String) : String :=
  match Text.fields '\n' text.toList with
  | line :: more => first ++ String.ofList line ++ String.join (more.map fun l => "\n" ++ rest ++ String.ofList l)
  | [] => first

/-- The lines of a cause with its number. -/
def numberedCause (cause : String × Nat) : String := indented s!"    {cause.2}: " "       " cause.1

/-- The text of a complaint. -/
def text (c : Complaint) : String :=
  let causes :=
    match c.causes with
    | [] => ""
    | [cause] => "\n\nCaused by:\n" ++ indented "    " "    " cause
    | causes => "\n\nCaused by:\n" ++ Text.joinText "\n" (causes.zipIdx.map numberedCause)
  s!"Error: {c.what}{causes}\n"

end Complaint

end ReleaseGate.CommandLine
