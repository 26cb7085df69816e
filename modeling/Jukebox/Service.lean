import Jukebox.Player
import Jukebox.Script
import Jukebox.Spotify

/-!
The playback services that a party can be held with.
-/

namespace Jukebox

/-- A playback service and its state. -/
inductive Service where
  | simulated (player : Player)
  | scripted (script : Script)
  | spotify (session : Spotify.Session)

namespace Service

/-- Answers a call by the service in question. -/
def serve (now : Instant) (c : Call) : Service → Except Error c.Result × Service
  | .simulated player =>
    let (answer, player) := Player.backend.serve now c player
    (answer, .simulated player)
  | .scripted script =>
    let (answer, script) := Script.backend.serve now c script
    (answer, .scripted script)
  | .spotify session =>
    let (answer, session) := Spotify.Session.backend.serve now c session
    (answer, .spotify session)

/-- The services as one backend. -/
def backend : Backend Service where
  name
    | .simulated player => Player.backend.name player
    | .scripted script => Script.backend.name script
    | .spotify session => Spotify.Session.backend.name session
  suspends
    | .simulated player => Player.backend.suspends player
    | .scripted script => Script.backend.suspends script
    | .spotify session => Spotify.Session.backend.suspends session
  serve := serve

end Service
end Jukebox
