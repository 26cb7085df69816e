import Jukebox.Backend
import Jukebox.Spotify.Access

/-!
Spotify as the playback service of a party.

Each capability is one request to the API.  Tracks are known by their URIs, but may also be asked for
by the bare names that end them.
-/

namespace Jukebox.Spotify

/-! ## Names of tracks -/

/-- The URI of a track begins like this. -/
def uriLead : List Char :=
  "spotify:track:".toList

/-- The name of a track without the beginning of its URI. -/
def bareName (id : TrackId) : String :=
  let name := id.text.toList
  if uriLead.isPrefixOf name then String.ofList (name.drop uriLead.length) else id.text

/-- The URI of a track. -/
def uri (id : TrackId) : String :=
  String.ofList uriLead ++ bareName id

/-! ## Requests -/

/-- A request that reads. -/
def reading (path : String) (query : List (String × String)) : ApiRequest :=
  ⟨"GET", path, query, none⟩

/-- The request for the state of the player. -/
def playerRequest : ApiRequest :=
  reading "/me/player" []

/-- Searches give at most so many tracks. -/
def searchLimit : Nat :=
  50

/-- The request for a search. -/
def searchRequest (pattern : String) (limit : Nat) : ApiRequest :=
  reading "/search" [("q", pattern), ("type", "track"),
    ("limit", String.ofList (Text.Decimal.digits (min (max limit 1) searchLimit)))]

/-- The request for a track. -/
def lookupRequest (id : TrackId) : ApiRequest :=
  reading s!"/tracks/{bareName id}" []

/-- The request for the devices. -/
def devicesRequest : ApiRequest :=
  reading "/me/player/devices" []

/-- The request to make a device the active one. -/
def transferRequest (device : Device) : ApiRequest :=
  ⟨"PUT", "/me/player", [], some (transferBody device)⟩

/-- The request to start a track on a device. -/
def startRequest (id : TrackId) (device : Device) : ApiRequest :=
  ⟨"PUT", "/me/player/play", [("device_id", device.id)], some (playBody (uri id))⟩

/-- The request to go on playing. -/
def resumeRequest : ApiRequest :=
  ⟨"PUT", "/me/player/play", [], none⟩

/-- The request to pause. -/
def pauseRequest : ApiRequest :=
  ⟨"PUT", "/me/player/pause", [], none⟩

/-- The request to end the current track. -/
def skipRequest : ApiRequest :=
  ⟨"POST", "/me/player/next", [], none⟩

/-- The request to set the volume, which is at most 100 percent. -/
def volumeRequest (percent : UInt8) : ApiRequest :=
  ⟨"PUT", "/me/player/volume",
    [("volume_percent", String.ofList (Text.Decimal.digits (min percent.toNat 100)))], none⟩

/-! ## Capabilities -/

/-- Makes a request whose answer does not matter. -/
def command (client : Client) (r : ApiRequest) : Task Unit := do
  let _ ← send client r

/-- Performs a call; a track that the service answers nothing about is not found. -/
def perform (client : Client) : (c : Call) → Task (Except Error c.Result)
  | .refresh => Except.ok <$> refresh client
  | .search pattern limit => do
    let found ← fetch client found? (searchRequest pattern limit)
    return .ok (found.getD [])
  | .lookup id => do
    match ← fetch client track? (lookupRequest id) with
    | some track => return .ok track
    | none => return .error (.unknownTrack id)
  | .current => do
    let state ← fetch client playerState? playerRequest
    return .ok (state.bind (·.playback?))
  | .devices => do
    let listed ← fetch client devices? devicesRequest
    return .ok ((listed.getD []).filterMap (·.addressed?))
  | .transfer device => Except.ok <$> command client (transferRequest device)
  | .start id device => Except.ok <$> command client (startRequest id device)
  | .resume => Except.ok <$> command client resumeRequest
  | .pause => Except.ok <$> command client pauseRequest
  | .skip => Except.ok <$> command client skipRequest
  | .volume => do
    let state ← fetch client playerState? playerRequest
    return .ok ((state.bind (·.device)).bind (·.volume))
  | .setVolume percent => Except.ok <$> command client (volumeRequest percent)

/-- The steps of a call and how it ends. -/
def steps (client : Client) (c : Call) : Program interface (Except Error c.Result) :=
  return match ← (perform client c).run with
  | .ok answer => answer
  | .error fault => .error fault.toError

/-! ## Sessions -/

/-- What is kept between the calls, and the far end. -/
structure Session where
  client : Client
  /-- The access token. -/
  token : Option Token
  /-- The refresh token in use. -/
  refreshToken : String
  web : Http.Web
  /-- An access token was issued for longer than the clock can count, which nothing goes on after. -/
  broken : Bool

namespace Session

/-- Where the API is. -/
def apiBase : String :=
  "https://api.spotify.com/v1"

/-- Where tokens are issued. -/
def tokenUrl : String :=
  "https://accounts.spotify.com/api/token"

/-- The URL without slashes at its end. -/
def withoutSlash (url : String) : String :=
  String.ofList ((url.toList.reverse.dropWhile (· == '/')).reverse)

/-- Begins a session for an account; the base of the API and the issuer of tokens are given. -/
def beginAt (apiBase tokenUrl : String) (account : Account) (web : Http.Web) :
    Except Error Session := do
  let credentials ← account.credentials
  return ⟨⟨withoutSlash apiBase, tokenUrl, credentials⟩, none, credentials.refreshToken, web, false⟩

/-- Begins a session for an account. -/
def begin (account : Account) (web : Http.Web) : Except Error Session :=
  beginAt apiBase tokenUrl account web

/-- The stored access token at a time, if it is fresh then. -/
def fresh? (s : Session) (now : Instant) : Option String :=
  match s.token with
  | some token => if now.isBefore token.expiresAt then some token.value else none
  | none => none

/-- The session after a token was rejected. -/
def forget (s : Session) (rejected : String) : Session :=
  match s.token with
  | some token => if token.value = rejected then { s with token := none } else s
  | none => s

/-- Answers a step. -/
def serve (now : Instant) : (a : Action) → Session → a.Answer × Session
  | .freshToken, s => (s.fresh? now, s)
  | .forget rejected, s => ((), s.forget rejected)
  | .store token seconds, s =>
    match now.addSeconds? seconds with
    | some time => (true, { s with token := some ⟨token, time⟩ })
    | none => (false, { s with broken := true })
  | .refreshToken, s => (s.refreshToken, s)
  | .rotate token, s => ((), { s with refreshToken := token })
  | .acquire, s => ((), s)
  | .release, s => ((), s)
  | .exchange c, s =>
    let (reply, web) := s.web.exchange c
    (reply, { s with web := web })

/-- Spotify as a backend; every call waits for its answer. -/
def backend : Backend Session where
  name _ := "spotify"
  suspends _ := true
  serve now c s := (steps s.client c).run (serve now) s

end Session
end Jukebox.Spotify
