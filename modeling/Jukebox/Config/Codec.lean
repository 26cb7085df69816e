import Jukebox.Config
import Jukebox.Json

/-!
The JSON form of a configuration.
-/

namespace Jukebox.Config

/-- Writes a configuration, in the sections that its file has. -/
def toJson (c : Config) : Json :=
  .ofMembers [
    ("server", .ofMembers [("bind", .ofText c.server.bind), ("port", .ofNat c.server.port.toNat)]),
    ("scheduler", .ofMembers [("interval_ms", .ofNat c.scheduler.interval.toNat),
      ("check_attempts", .ofNat c.scheduler.checkAttempts.toNat),
      ("end_of_track_threshold_ms", .ofNat c.scheduler.endOfTrackThreshold.toNat)]),
    ("playback", .ofMembers [("backend", .ofText c.playback.backend.name),
      ("preferred_device", .ofOption .ofText c.playback.preferredDevice),
      ("volume_step", .ofNat c.playback.volumeStep.toNat)]),
    ("spotify", .ofMembers [("client_id", .ofOption .ofText c.spotify.clientId),
      ("client_secret", .ofOption .ofText c.spotify.clientSecret),
      ("refresh_token", .ofOption .ofText c.spotify.refreshToken)]),
    ("party", .ofMembers [("admin_password", .ofOption .ofText c.adminPassword)]),
    ("logging", .ofMembers [("level", .ofText c.logLevel)])]

end Jukebox.Config
