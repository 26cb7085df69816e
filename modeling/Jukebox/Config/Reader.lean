import Jukebox.Config
import Jukebox.Toml.Reader
import Jukebox.Toml.Record

/-!
Reading a configuration from a TOML document.

Whatever the document does not say keeps its default.
-/

namespace Jukebox

open Toml (withDefault asText? asNat? asWord?)

/-- The text is no TOML document, or some value in it has another type. -/
def Error.notAConfig : Error :=
  ⟨.config, "Invalid TOML: the document cannot be read as a configuration"⟩

namespace Config

/-- A text that may be missing. -/
def optionalText? : Option Toml → Option (Option String) :=
  withDefault none fun value => (asText? value).map some

/-- Reads where the API is offered. -/
def Server.ofToml? (base : Server) (value : Toml) : Option Server := do
  match ← value.record? ["bind", "port"] with
  | [bind, port] =>
    return ⟨← withDefault base.bind asText? bind,
      ← withDefault base.port (fun v => (asNat? UInt16.size v).map (·.toUInt16)) port⟩
  | _ => none

/-- Reads what the scheduler is set to. -/
def schedulerOfToml? (base : Scheduler.Settings) (value : Toml) : Option Scheduler.Settings := do
  match ← value.record? ["interval_ms", "check_attempts", "end_of_track_threshold_ms"] with
  | [interval, attempts, threshold] =>
    return ⟨← withDefault base.interval (fun v => (asNat? UInt64.size v).map (·.toUInt64)) interval,
      ← withDefault base.checkAttempts (fun v => (asNat? UInt32.size v).map (·.toUInt32)) attempts,
      ← withDefault base.endOfTrackThreshold (fun v => (asNat? UInt64.size v).map (·.toUInt64)) threshold⟩
  | _ => none

/-- Reads how music is played. -/
def Playback.ofToml? (base : Playback) (value : Toml) : Option Playback := do
  match ← value.record? ["backend", "preferred_device", "volume_step"] with
  | [backend, device, step] =>
    return ⟨← withDefault base.backend (asWord? Service.Kind.ofName?) backend,
      ← optionalText? device,
      ← withDefault base.volumeStep (fun v => (asNat? UInt8.size v).map (·.toUInt8)) step⟩
  | _ => none

/-- Reads the credentials for a Spotify account. -/
def accountOfToml? (value : Toml) : Option Spotify.Account := do
  match ← value.record? ["client_id", "client_secret", "refresh_token"] with
  | [id, secret, token] =>
    return ⟨← optionalText? id, ← optionalText? secret, ← optionalText? token⟩
  | _ => none

/-- Reads the password for admins. -/
def passwordOfToml? (value : Toml) : Option (Option String) := do
  match ← value.record? ["admin_password"] with
  | [password] => optionalText? password
  | _ => none

/-- Reads how much is logged. -/
def logLevelOfToml? (base : String) (value : Toml) : Option String := do
  match ← value.record? ["level"] with
  | [level] => withDefault base asText? level
  | _ => none

/-- The configuration that a document describes. -/
def ofToml? (document : Toml.Entries) : Option Config := do
  return {
    server := ← withDefault default.server default.server.ofToml? (document.lookup "server")
    scheduler := ← withDefault default.scheduler (schedulerOfToml? default.scheduler)
      (document.lookup "scheduler")
    playback := ← withDefault default.playback default.playback.ofToml? (document.lookup "playback")
    spotify := ← withDefault default.spotify accountOfToml? (document.lookup "spotify")
    adminPassword := ← withDefault default.adminPassword passwordOfToml? (document.lookup "party")
    logLevel := ← withDefault default.logLevel (logLevelOfToml? default.logLevel)
      (document.lookup "logging") }

/-- Reads a configuration. -/
def parse (text : String) : Except Error Config :=
  match (Toml.read? text).bind ofToml? with
  | some config => .ok config
  | none => .error .notAConfig

end Config
end Jukebox
