import Jukebox.About
import Jukebox.Http.Target
import Jukebox.Http.Web
import Jukebox.Instant
import Jukebox.Program
import Jukebox.Spotify.Account
import Jukebox.Spotify.Fault
import Jukebox.Spotify.Wire
import Jukebox.Text.Base64
import Jukebox.Text.Blank
import Jukebox.Text.Percent

/-!
Access to the Spotify API: the tokens, and requests that carry them.

Every request to the API carries the stored access token, and there is none without a fresh token.  A
token that the service rejects is forgotten, unless another one has taken its place meanwhile.  Tokens
are renewed one at a time, under a lock, and not at all while the stored one is fresh.
-/

namespace Jukebox.Spotify

/-- An access token and when it stops being fresh. -/
structure Token where
  value : String
  expiresAt : Instant
deriving DecidableEq

/-- Where the service is and who uses it. -/
structure Client where
  /-- The URL at which the paths of the API begin, without a slash at its end. -/
  apiBase : String
  /-- The URL at which tokens are issued. -/
  tokenUrl : String
  credentials : Credentials

/-! ## Steps -/

/-- One step of an operation. -/
inductive Action where
  /-- Read the stored access token, if it is fresh. -/
  | freshToken
  /-- Forget the stored access token if it is the rejected one. -/
  | forget (rejected : String)
  /-- Store an access token that stays fresh for so many seconds; the clock may not reach so far. -/
  | store (token : String) (seconds : Nat)
  /-- Read the refresh token. -/
  | refreshToken
  /-- Use another refresh token from now on. -/
  | rotate (token : String)
  /-- Wait until no other operation renews the tokens, and keep others from it. -/
  | acquire
  /-- Let others renew the tokens. -/
  | release
  /-- Make a request and wait for the answer. -/
  | exchange (c : Http.Call)
deriving DecidableEq

/-- What a step answers. -/
def Action.Answer : Action → Type
  | .freshToken => Option String
  | .refreshToken => String
  | .store .. => Bool
  | .exchange _ => Option Http.Reply
  | .forget _ | .rotate _ | .acquire | .release => Unit

/-- The interface of operations. -/
abbrev interface : Interface :=
  ⟨Action, Action.Answer⟩

/-- An operation that may fail. -/
abbrev Task (α : Type) :=
  ExceptT Fault (Program interface) α

/-- One step. -/
def step (a : Action) : Task a.Answer :=
  ExceptT.lift (Program.request (I := interface) a)

/-! ## Requests to the API -/

/-- The name under which requests are made. -/
def userAgent : String :=
  s!"{About.name}/{About.version}"

/-- The token can be sent: no control characters are in it. -/
def isSendable (token : String) : Bool :=
  token.toList.all fun c => c == '\t' || (32 ≤ c.toNat && c.toNat != 127)

/-- A request to the API. -/
structure ApiRequest where
  method : String
  /-- The path behind the base of the API. -/
  path : String
  query : List (String × String)
  body : Option String
deriving DecidableEq

namespace ApiRequest

/-- The URL of a request, with its query. -/
def url (base : String) (r : ApiRequest) : String :=
  if r.query.isEmpty then base ++ r.path
  else s!"{base}{r.path}?{Text.Percent.encodeForm r.query}"

/-- The request as it is sent with a token. -/
def withToken (base : String) (r : ApiRequest) (token : String) : Http.Call where
  method := r.method
  target := Http.Target.ofUrl (r.url base)
  authorization := s!"Bearer {token}"
  contentType := r.body.map fun _ => "application/json"
  userAgent := userAgent
  body := r.body.getD ""

end ApiRequest

/-- A fresh access token. -/
def accessToken : Task String := do
  match (← step .freshToken : Option String) with
  | some token => pure token
  | none => throw .unauthorized

/-- The answer to a request. -/
def exchange (c : Http.Call) : Task Http.Reply := do
  match (← step (.exchange c) : Option Http.Reply) with
  | some reply => pure reply
  | none => throw (.network "no answer")

/-- The body of an answer. -/
def bodyOf (reply : Http.Reply) : Task String :=
  match reply.text? with
  | some text => pure text
  | none => throw (.network "the answer broke off")

/-- Makes a request to the API and gives the body of the answer, or nothing if there is none in it. -/
def send (client : Client) (r : ApiRequest) : Task (Option String) := do
  let token ← accessToken
  if !isSendable token then throw (.network "the access token cannot be sent")
  let reply ← exchange (r.withToken client.apiBase token)
  let body ← bodyOf reply
  if reply.status = 204 then pure none
  else if reply.isSuccess then
    pure (if (Text.trim body.toList).isEmpty then none else some body)
  else
    let fault := Fault.ofAnswer reply.status body
    if fault = .unauthorized then step (.forget token)
    throw fault

/-- Makes a request to the API and reads the answer. -/
def fetch {α : Type} (client : Client) (read : Json → Option α) (r : ApiRequest) :
    Task (Option α) := do
  match ← send client r with
  | none => pure none
  | some body =>
    match (Json.read? body).bind read with
    | some a => pure (some a)
    | none => throw (.unreadable "the answer has another form")

/-! ## Renewing the tokens -/

/-- A token counts as expired so many seconds before the service says so. -/
def margin : Nat :=
  10

/-- The request for a new access token. -/
def issueRequest (client : Client) (refreshToken : String) : Http.Call where
  method := "POST"
  target := Http.Target.ofUrl client.tokenUrl
  authorization :=
    let pair := s!"{client.credentials.clientId}:{client.credentials.clientSecret}"
    s!"Basic {String.ofList (Text.Base64.encode (Text.Utf8.encode pair.toList))}"
  contentType := some "application/x-www-form-urlencoded"
  userAgent := userAgent
  body := Text.Percent.encodeForm
    [("grant_type", "refresh_token"), ("refresh_token", refreshToken)]

/-- What is issued by an answer to the request for a new access token. -/
def issueOf (reply : Http.Reply) : Except Fault Issue :=
  if reply.status = 400 ∨ reply.status = 401 then .error (.refreshRejected (reply.text?.getD ""))
  else if reply.isSuccess then
    match (reply.strictText?.bind Json.read?).bind issue? with
    | some issue => .ok issue
    | none => .error (.unreadable "the answer has another form")
  else .error (.ofAnswer reply.status (reply.text?.getD ""))

/-- Has a new access token issued and stores it. -/
def renew (client : Client) : Task Unit := do
  let refreshToken ← step .refreshToken
  let reply ← exchange (issueRequest client refreshToken)
  let issue ← ofExcept (issueOf reply)
  let stored ← step (.store issue.accessToken (issue.lifetime - margin))
  if !(stored : Bool) then throw .endlessLifetime
  match issue.refreshToken with
  | some token => step (.rotate token)
  | none => pure ()

/-- Renews the access token unless a fresh one is stored. -/
def refresh (client : Client) : Task Unit :=
  ExceptT.mk do
    Program.request (I := interface) .acquire
    let result ← (do
      match (← step .freshToken : Option String) with
      | some _ => pure ()
      | none => renew client : Task Unit).run
    Program.request (I := interface) .release
    pure result

end Jukebox.Spotify
