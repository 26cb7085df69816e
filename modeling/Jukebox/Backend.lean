import Jukebox.Error
import Jukebox.Instant

/-!
What a playback service can do.

A `Call` is one capability with its arguments.  A `Backend` answers calls from a state of its own; it
reports an expired access token as a failure of that kind and never tries again by itself.
-/

namespace Jukebox

/-- One use of a capability of the playback service. -/
inductive Call where
  /-- Renew the access credentials. -/
  | refresh
  | search (pattern : String) (limit : Nat)
  | lookup (id : TrackId)
  /-- Ask what is loaded; nothing, if there is nothing on any device. -/
  | current
  | devices
  /-- Make a device the active one. -/
  | transfer (device : Device)
  | start (id : TrackId) (device : Device)
  | resume
  | pause
  | skip
  /-- Ask for the volume; nothing, if there is no active playback. -/
  | volume
  | setVolume (percent : UInt8)
deriving DecidableEq

/-- The capabilities, without arguments. -/
inductive Capability where
  | refresh
  | search
  | lookup
  | current
  | devices
  | transfer
  | start
  | resume
  | pause
  | skip
  | volume
  | setVolume
deriving DecidableEq

/-- What a successful use of a capability answers. -/
def Capability.Result : Capability → Type
  | .search => List Track
  | .lookup => Track
  | .current => Option Playback
  | .devices => List Device
  | .volume => Option UInt8
  | .refresh | .transfer | .start | .resume | .pause | .skip | .setVolume => Unit

/-- The capability that a call uses. -/
def Call.capability : Call → Capability
  | .refresh => .refresh
  | .search .. => .search
  | .lookup .. => .lookup
  | .current => .current
  | .devices => .devices
  | .transfer .. => .transfer
  | .start .. => .start
  | .resume => .resume
  | .pause => .pause
  | .skip => .skip
  | .volume => .volume
  | .setVolume .. => .setVolume

/-- What a successful call answers. -/
abbrev Call.Result (c : Call) : Type :=
  c.capability.Result

/-- A playback service with a state of type `σ`. -/
structure Backend (σ : Type) where
  /-- The short name for logs and health reports. -/
  name : σ → String
  /-- Each call waits for the service, so that others may go on meanwhile. -/
  suspends : σ → Bool
  /-- Answers a call made at a given time. -/
  serve : Instant → (c : Call) → σ → Except Error c.Result × σ

end Jukebox
