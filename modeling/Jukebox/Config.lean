import Jukebox.Party.Request
import Jukebox.Scheduler.Memory
import Jukebox.Service
import Jukebox.Service.Kind

/-!
The configuration of a party.

Every value has a default.  `Config.validate` finds what a party cannot be held with.
-/

namespace Jukebox

/-- Where the API is offered. -/
structure Config.Server where
  /-- The address to listen on. -/
  bind : String
  port : UInt16
deriving DecidableEq

/-- How music is played. -/
structure Config.Playback where
  backend : Service.Kind
  /-- The name of the device to prefer. -/
  preferredDevice : Option String
  /-- By so many percent the volume goes up or down. -/
  volumeStep : UInt8
deriving DecidableEq

/-- A configuration. -/
structure Config where
  server : Config.Server
  scheduler : Scheduler.Settings
  playback : Config.Playback
  spotify : Spotify.Account
  /-- The password that makes a guest an admin; without one, every guest is an admin. -/
  adminPassword : Option String
  logLevel : String
deriving DecidableEq

/-- The scheduler cannot tick without pause. -/
def Error.noInterval : Error :=
  ⟨.config, "scheduler.interval_ms must be > 0"⟩

/-- A started track needs at least one poll to be confirmed. -/
def Error.noAttempts : Error :=
  ⟨.config, "scheduler.check_attempts must be > 0"⟩

/-- A step of the volume is a percentage. -/
def Error.volumeStepOutOfRange : Error :=
  ⟨.config, "playback.volume_step must be within 1..=100"⟩

/-- Spotify was chosen without credentials. -/
def Error.spotifyWithoutAccount : Error :=
  ⟨.notInitialized, "spotify backend requires client_id, client_secret and refresh_token"⟩

namespace Config

/-- The configuration that holds without a file. -/
def default : Config where
  server := ⟨"0.0.0.0", 8080⟩
  scheduler := ⟨1000, 5, 1000⟩
  playback := ⟨.spotify, none, 10⟩
  spotify := .empty
  adminPassword := none
  logLevel := "info"

/-- Fails if no party can be held with the configuration. -/
def validate (c : Config) : Except Error Unit :=
  if c.scheduler.interval = 0 then .error .noInterval
  else if c.scheduler.checkAttempts = 0 then .error .noAttempts
  else if c.playback.volumeStep = 0 ∨ 100 < c.playback.volumeStep then
    .error .volumeStepOutOfRange
  else if c.playback.backend = .spotify ∧ !c.spotify.isComplete then
    .error .spotifyWithoutAccount
  else .ok ()

/-- The rules of a party with this configuration. -/
def rules (c : Config) : Party.Rules where
  adminPassword := c.adminPassword
  preferredDevice := c.playback.preferredDevice
  volumeStep := c.playback.volumeStep

/-- The playback service that is configured; `web` is what it is reached through. -/
def service (c : Config) (web : Http.Web) : Except Error Service :=
  match c.playback.backend with
  | .spotify => (Spotify.Session.begin c.spotify web).map .spotify
  | .memory => .ok (.simulated (.new Player.demoCatalog))

end Config
end Jukebox
