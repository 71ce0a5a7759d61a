import ReleaseGate.Codec.Report
import ReleaseGate.Http.Message
import ReleaseGate.Json.Reader
import ReleaseGate.Publish.Credential

/-!
# Minted tokens

Instead of keeping a token for each channel, a run can show who it is. It asks the runtime for an identity token, and exchanges
that at the mint of a channel for a token that is valid for a short time and for this channel only.
-/

namespace ReleaseGate

/-- An issuer that mints a token for each publish. -/
structure MintIssuer (σ : Type) where
  /-- Where the runtime hands out identity tokens. -/
  identityUrl : String
  /-- What the runtime wants to see before it does. -/
  identitySecret : String
  /-- For whom the identity token is meant. -/
  audience : Option String
  mintUrls : PerChannel (Option String)
  client : Http.Client σ
  clock : σ → Timestamp

namespace MintIssuer

variable {σ : Type}

/-- The lifetime of a token that does not state its expiry, in minutes. -/
def defaultLifetime : Nat := 15

/-- The request for an identity token. -/
def identityRequest (i : MintIssuer σ) : Except TransportError Http.Request :=
  match Http.target i.identityUrl with
  | .error e => .error e
  | .ok url =>
    let url := (i.audience.map fun a => url.withField "audience" a).getD url
    if Http.isHeaderText i.identitySecret then
      .ok { method := .get, url, authorization := some (.bearer i.identitySecret) }
    else .error .notMade

/-- The value that the body of an answer holds. -/
def decoded {α : Type} (decode : Json → Option α) (r : Http.Response) : Except PublishError α :=
  match ((Text.Utf8.decode r.body).bind Json.parse?).bind decode with
  | some a => .ok a
  | none => .error (.http .undecodable)

/-- The identity token in the answer of the runtime. -/
def identity? (j : Json) : Option String :=
  (Codec.fields? ["value"] j).bind fun
    | [v] => Codec.required Codec.text? v
    | _ => none

/-- The identity token that the runtime answers with, if it does. -/
def identityOf (r : Http.Response) : Except PublishError String :=
  if r.isSuccess then decoded identity? r else .error (.identityUnavailable (.refused r.status))

/-- The request to exchange an identity token at a mint. -/
def mintRequest (mintUrl identity : String) : Except TransportError Http.Request :=
  (Http.target mintUrl).map fun url => { method := .post, url, body := .json (.object [("token", .str identity)]) }

/-- The token and its expiry in the answer of a mint. -/
def minted? (j : Json) : Option (String × Option Timestamp) :=
  (Codec.fields? ["token", "expires"] j).bind fun
    | [t, e] => do
      let token ← Codec.required Codec.text? t
      let expires ← Codec.optional Codec.timestamp? e
      pure (token, expires)
    | _ => none

/-- The credential in the answer of the mint of a channel, received at some point in time. -/
def credentialOf (c : Channel) (now : Timestamp) (r : Http.Response) : Except PublishError Credential :=
  if r.isSuccess then
    (decoded minted? r).map fun (token, expires) =>
      { channel := c, secret := token, expiresAt := some (expires.getD (now.addMinutes defaultLifetime)) }
  else .error (.credentialUnavailable c (.mintRefused r.status (Text.trimmed r.text)))

/-- Sends a request that could be made. -/
def send (client : Http.Client σ) : Except TransportError Http.Request → Stepwise σ (Except PublishError Http.Response)
  | .error e => pure (.error (.http e))
  | .ok request => do
    match ← client request with
    | .error e => pure (.error (.http e))
    | .ok response => pure (.ok response)

/-- The issuer at work: identity first, then the mint of the channel. A channel without a mint is refused before anything is
sent. -/
def issuer (i : MintIssuer σ) : Issuer σ := fun c => do
  match i.mintUrls.get c with
  | none => pure (.error (.noEndpoint c))
  | some mintUrl =>
    match (← send i.client i.identityRequest).bind identityOf with
    | .error e => pure (.error e)
    | .ok identity =>
      match ← send i.client (mintRequest mintUrl identity) with
      | .error e => pure (.error e)
      | .ok response =>
        let now ← Stepwise.observe i.clock
        pure (credentialOf c now response)

/-- The issuer for a runtime that says in two variables where it hands out identity tokens. -/
def ofEnvironment (urlVariable secretVariable : String) (audience : Option String) (mintUrls : PerChannel (Option String))
    (client : Http.Client σ) (clock : σ → Timestamp) (environment : Environment) : Except PublishError (MintIssuer σ) :=
  let read (name : String) : Except PublishError String :=
    match environment.lookup name with
    | some value => .ok value
    | none => .error (.identityUnavailable (.unset name))
  (read urlVariable).bind fun identityUrl =>
    (read secretVariable).map fun identitySecret => { identityUrl, identitySecret, audience, mintUrls, client, clock }

end MintIssuer

end ReleaseGate
