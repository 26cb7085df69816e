import Jukebox.Error
import Jukebox.Json.Reader
import Jukebox.Json.Record

/-!
What can go wrong in an exchange with Spotify.

An answer that is no success is told by its status and, in a few cases, by the reason that its body
gives.
-/

namespace Jukebox.Spotify

/-- Why an exchange failed. -/
inductive Fault where
  /-- There was no answer, or only a part of one. -/
  | network (detail : String)
  /-- The access token is missing, expired or rejected. -/
  | unauthorized
  /-- There is no active device. -/
  | noActiveDevice
  /-- There were too many requests. -/
  | rateLimited
  /-- The answer was a failure of another kind. -/
  | api (status : Nat) (text : String)
  /-- The answer could not be read. -/
  | unreadable (detail : String)
  /-- The refresh token was not accepted. -/
  | refreshRejected (text : String)
  /-- The clock cannot show when a new access token expires. -/
  | endlessLifetime
deriving DecidableEq, Repr

namespace Fault

/-- The text for a fault. -/
def message : Fault → String
  | .network detail => s!"Network error: {detail}"
  | .unauthorized => "Access token expired or revoked"
  | .noActiveDevice => "No active device"
  | .rateLimited => "Rate limit exceeded"
  | .api status text => s!"API error {status}: {text}"
  | .unreadable detail => s!"Parse error: {detail}"
  | .refreshRejected text => s!"Refresh token rejected: {text}"
  | .endlessLifetime => "Access token lifetime out of range"

/-- The kind of failure that a fault is for the party. -/
def kind : Fault → Error.Kind
  | .unauthorized => .credentialExpired
  | .noActiveDevice => .noDeviceAvailable
  | .network _ | .rateLimited | .unreadable _ => .gatewayUnavailable
  | .refreshRejected _ => .notInitialized
  | .api 400 _ => .invalidValue
  | .api 403 _ => .accessDenied
  | .api 404 _ => .notFound
  | .api _ _ => .gatewayUnavailable
  | .endlessLifetime => .internal

/-- A fault as a failure of the playback service. -/
def toError (f : Fault) : Error :=
  ⟨f.kind, f.message⟩

/-- What the body of a failure tells: a text and a reason, each of which may be missing. -/
def detail? (body : String) : Option (Option String × Option String) := do
  match ← (← Json.read? body).record ["error"] 1 with
  | [error] =>
    match ← (← error).record ["message", "reason"] 2 with
    | [message, reason] =>
      return (← Json.optional Json.text? message, ← Json.optional Json.text? reason)
    | _ => none
  | _ => none

/-- The fault that an answer without success reports. -/
def ofAnswer (status : Nat) (body : String) : Fault :=
  let detail := detail? body
  if status = 401 then .unauthorized
  else if status = 429 then .rateLimited
  else if (detail.bind (·.2)) = some "NO_ACTIVE_DEVICE" then .noActiveDevice
  else .api status ((detail.bind (·.1)).getD body)

end Fault
end Jukebox.Spotify
