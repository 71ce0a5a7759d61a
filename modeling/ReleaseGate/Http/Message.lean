import ReleaseGate.Http.Status
import ReleaseGate.Http.Url
import ReleaseGate.Json.Value
import ReleaseGate.Publish.Error
import ReleaseGate.Stepwise

/-!
# Requests and answers

What a channel is asked over HTTP and what it answers. How a request travels is left open: a client is a function from requests to
steps that end in an answer or in the reason why there is none.
-/

namespace ReleaseGate.Http

/-- The methods that are used. -/
inductive Method where
  | get
  | post
  deriving DecidableEq, Repr

/-- Who sends a request. -/
inductive Authorization where
  | basic (username password : String)
  | bearer (token : String)
  deriving DecidableEq, Repr

/-- A field of a form. -/
structure FormField where
  name : String
  fileName : Option String := none
  contentType : Option String := none
  value : List UInt8
  deriving DecidableEq, Repr

/-- A field of a form that holds a text. -/
def FormField.ofText (name value : String) : FormField := { name, value := Text.Utf8.encode value }

/-- What a request carries. -/
inductive Body where
  | empty
  | json (value : Json)
  | form (fields : List FormField)

/-- How this program names itself in requests. -/
def agentName : String := "shipgate/0.1.0"

/-- A request. -/
structure Request where
  method : Method
  url : Url
  authorization : Option Authorization := none
  agent : String := agentName
  body : Body := .empty

/-- An answer. -/
structure Response where
  status : Status
  body : List UInt8
  deriving DecidableEq, Repr

namespace Response

/-- Whether an answer grants what was asked. -/
def isSuccess (r : Response) : Bool := r.status.isSuccess

/-- The body of an answer as text. A byte-order mark at its start is a character of it. -/
def text (r : Response) : String := Text.Utf8.decodeLossy r.body

end Response

/-- What sends requests. -/
abbrev Client (σ : Type) := Request → Stepwise σ (Except TransportError Response)

/-- A client without a network: no request reaches its server. -/
def offline {σ : Type} : Client σ := fun r => pure (.error (.notSent r.url.print))

/-- The URL to which a request can be made, from its text. -/
def target (s : String) : Except TransportError Url :=
  match Url.read s with
  | .ok url => .ok url
  | .error .malformed => .error .notMade
  | .error .otherScheme => .error (.otherScheme s)

/-- Whether a text can stand in a header: it has no control but the tab. -/
def isHeaderText (s : String) : Bool := s.toList.all fun c => c == '\t' || (0x20 ≤ c.toNat && c.toNat != 0x7f)

end ReleaseGate.Http
