import Jukebox.Track

/-!
What can go wrong, and the words for it.

An `Error` has a kind, which decides how a caller reacts and which HTTP status it becomes, and a
detail for people.  The wording of each cause is a definition of its own, beside the operation that
fails for that cause.
-/

namespace Jukebox

/-- The kinds of failure that callers tell apart. -/
inductive Error.Kind where
  /-- A track or a session is absent. -/
  | notFound
  /-- The track is queued already. -/
  | alreadyExists
  /-- The input can be read but is not acceptable. -/
  | invalidValue
  /-- The input cannot be read. -/
  | invalidFormat
  /-- The caller may not do this. -/
  | accessDenied
  /-- The playback service rejected the access token. -/
  | credentialExpired
  /-- There is no device to play on. -/
  | noDeviceAvailable
  /-- The playback service cannot be reached or fails. -/
  | gatewayUnavailable
  /-- Something needed beforehand is missing, such as credentials. -/
  | notInitialized
  /-- The configuration is wrong. -/
  | config
  /-- A file cannot be read. -/
  | io
  /-- Anything else. -/
  | internal
deriving DecidableEq, Repr, Inhabited

/-- A failure: its kind and a detail for people. -/
structure Error where
  kind : Error.Kind
  detail : String
deriving DecidableEq, Repr, Inhabited

namespace Error

/-- The words with which a message of each kind begins. -/
def Kind.lead : Kind → String
  | .notFound => "Not found"
  | .alreadyExists => "Already exists"
  | .invalidValue => "Invalid value"
  | .invalidFormat => "Invalid format"
  | .accessDenied => "Access denied"
  | .credentialExpired => "Credentials expired"
  | .noDeviceAvailable => "No playback device available"
  | .gatewayUnavailable => "Playback service unavailable"
  | .notInitialized => "Not initialized"
  | .config => "Configuration error"
  | .io => "IO error"
  | .internal => "Internal error"

/-- The text shown for a failure. -/
def message (e : Error) : String :=
  s!"{e.kind.lead}: {e.detail}"

/-- The playback service wants a fresh access token. -/
def isCredentialExpired (e : Error) : Bool :=
  e.kind == .credentialExpired

/-- The HTTP status of an answer that reports the failure. -/
def Kind.status : Kind → Nat
  | .notFound | .noDeviceAvailable => 404
  | .alreadyExists => 409
  | .invalidFormat => 422
  | .invalidValue => 400
  | .accessDenied => 403
  | .credentialExpired | .gatewayUnavailable => 502
  | .notInitialized => 503
  | .config | .io | .internal => 500

/-- Another try may succeed; any other failure means that the service will never play the track. -/
def isTransient (e : Error) : Bool :=
  match e.kind with
  | .notFound | .invalidValue | .invalidFormat | .accessDenied => false
  | _ => true

/-! ## Causes that several parts share -/

/-- The service does not know the track. -/
def unknownTrack (id : TrackId) : Error :=
  ⟨.notFound, s!"track '{id.text}'"⟩

/-- The service does not know the device. -/
def unknownDevice (id : String) : Error :=
  ⟨.noDeviceAvailable, s!"device '{id}'"⟩

end Error
end Jukebox
