import Jukebox.Backend
import Jukebox.Text.Lowercase

/-!
A simulated playback service: a catalog of tracks, some devices, and one player whose progress follows
the steady clock.

The simulation can be taken offline, its access token can expire, and tracks can be started or ended
as if by another client of the service.
-/

namespace Jukebox

/-- The track that a player has loaded. -/
structure Loaded where
  track : Track
  /-- The progress in milliseconds when playing was last resumed or stopped. -/
  offset : UInt64
  /-- When playing was last resumed, if the track is playing. -/
  resumedAt : Option Instant
deriving DecidableEq, Inhabited

namespace Loaded

/-- A track that starts to play. -/
def start (track : Track) (now : Instant) : Loaded :=
  ⟨track, 0, some now⟩

/-- The milliseconds since playing was last resumed. -/
def running (l : Loaded) (now : Instant) : UInt64 :=
  match l.resumedAt with
  | some resumed => (now.since resumed).toUInt64
  | none => 0

/-- How far the track has come; never further than its end. -/
def progress (l : Loaded) (now : Instant) : UInt64 :=
  min (l.offset + l.running now) l.track.duration

/-- The track has been played to its end. -/
def finished (l : Loaded) (now : Instant) : Bool :=
  l.track.duration ≤ l.progress now

/-- Goes on playing, unless it plays already. -/
def resume (l : Loaded) (now : Instant) : Loaded :=
  if l.resumedAt.isNone then { l with resumedAt := some now } else l

/-- Stops playing where the track is. -/
def pause (l : Loaded) (now : Instant) : Loaded :=
  { l with offset := l.progress now, resumedAt := none }

/-- What the service reports about the track. -/
def playback (l : Loaded) (now : Instant) : Playback :=
  ⟨l.track, l.resumedAt.isSome, l.progress now⟩

end Loaded

/-- The simulated service. -/
structure Player where
  catalog : List Track
  devices : List Device
  /-- The name of the active device. -/
  activeDevice : Option String
  loaded : Option Loaded
  volume : UInt8
  credentialsValid : Bool
  /-- Renewing the credentials reports success and changes nothing. -/
  refreshIneffective : Bool
  offline : Bool
  /-- How often credentials that had expired were renewed. -/
  refreshCount : Nat
  /-- The tracks started and the devices they were started on, the oldest first. -/
  history : List (TrackId × String)
deriving DecidableEq

/-- The simulated service cannot be reached. -/
def Error.playerOffline : Error :=
  ⟨.gatewayUnavailable, "memory backend is offline"⟩

/-- The access token of the simulated service has expired. -/
def Error.playerTokenExpired : Error :=
  ⟨.credentialExpired, "memory backend token expired"⟩

/-- Nothing is loaded that could be resumed. -/
def Error.nothingLoaded : Error :=
  ⟨.invalidValue, "nothing loaded"⟩

/-- Nothing is loaded that could be skipped. -/
def Error.nothingToSkip : Error :=
  ⟨.invalidValue, "nothing loaded to skip"⟩

/-- Nothing is loaded whose volume could be set. -/
def Error.noActivePlayback : Error :=
  ⟨.invalidValue, "no active playback"⟩

namespace Player

/-- So many started tracks are remembered. -/
def historyLimit : Nat :=
  256

/-- The volume of a new player. -/
def defaultVolume : UInt8 :=
  50

/-- A player with a catalog and one device. -/
def new (catalog : List Track) : Player where
  catalog := catalog
  devices := [⟨"memory-device-0", "Memory Speaker", false, some defaultVolume⟩]
  activeDevice := none
  loaded := none
  volume := defaultVolume
  credentialsValid := true
  refreshIneffective := false
  offline := false
  refreshCount := 0
  history := []

/-- The catalog of a player that nobody gave another one. -/
def demoCatalog : List Track := [
    track "4uLU6hMCjMI75M1A2tKUQC" "Never Gonna Give You Up" ["Rick Astley"]
      "Whenever You Need Somebody" 213573,
    track "7GhIk7Il098yCjg4BQjzvb" "Around the World" ["Daft Punk"] "Homework" 429533,
    track "3n3Ppam7vgaVa1iaRUc9Lp" "Mr. Brightside" ["The Killers"] "Hot Fuss" 222973,
    track "0VjIjW4GlUZAMYd2vXMi3b" "Blinding Lights" ["The Weeknd"] "After Hours" 200040,
    track "2Fxmhks0bxGSBdJ92vM42m" "Bad Guy" ["Billie Eilish"] "When We All Fall Asleep" 194088,
    track "6habFhsOp2NvshLv26DqMb" "Despacito" ["Luis Fonsi", "Daddy Yankee"] "Vida" 228827,
    track "1mea3bSkSGXuIRvnydlB5b" "Viva La Vida" ["Coldplay"] "Viva La Vida" 242373,
    track "5ghIJDpPoe3CfHMGu71E6T" "Smells Like Teen Spirit" ["Nirvana"] "Nevermind" 301920]
where
  /-- A track of the demo catalog. -/
  track (id title : String) (artists : List String) (album : String) (duration : UInt64) : Track :=
    ⟨⟨s!"spotify:track:{id}"⟩, title, joinArtists artists, album, duration, ""⟩

/-! ## Calls -/

/-- Answers a call if the service can be reached and the access token is valid. -/
def connected {α : Type} (p : Player) (answer : Except Error α × Player) : Except Error α × Player :=
  if p.offline then (.error .playerOffline, p)
  else if p.credentialsValid then answer
  else (.error .playerTokenExpired, p)

/-- Renews the access token, if it has expired. -/
def refresh (p : Player) : Except Error Unit × Player :=
  if p.offline then (.error .playerOffline, p)
  else if p.credentialsValid then (.ok (), p)
  else
    (.ok (), { p with
      refreshCount := p.refreshCount + 1
      credentialsValid := !p.refreshIneffective })

/-- The title, the artist or the album of a track contains the pattern, in small letters. -/
def isMatch (pattern : String) (track : Track) : Bool :=
  [track.title, track.artist, track.album].any fun text =>
    Text.isPartOf (Text.lowercase pattern).toList (Text.lowercase text).toList

/-- The first tracks of the catalog that match a pattern. -/
def search (p : Player) (pattern : String) (limit : Nat) : List Track :=
  (p.catalog.filter (isMatch pattern)).take limit

/-- The track of this name. -/
def find? (p : Player) (id : TrackId) : Option Track :=
  p.catalog.find? (·.id == id)

/-- The player after a track that was played to its end is unloaded. -/
def unloadFinished (p : Player) (now : Instant) : Player :=
  { p with loaded := p.loaded.filter fun l => !l.finished now }

/-- The devices; the active one has the player's volume. -/
def listDevices (p : Player) : List Device :=
  p.devices.map fun d =>
    let isActive := p.activeDevice == some d.id
    { d with isActive := isActive, volume := if isActive then some p.volume else d.volume }

/-- The player has a device of this name. -/
def hasDevice (p : Player) (id : String) : Bool :=
  p.devices.any (·.id == id)

/-- Starts a track of the catalog on a device. -/
def start (p : Player) (now : Instant) (id : TrackId) (device : Device) :
    Except Error Unit × Player :=
  if p.hasDevice device.id then
    match p.find? id with
    | none => (.error (.unknownTrack id), p)
    | some track =>
      let history := p.history ++ [(id, device.id)]
      (.ok (), { p with
        activeDevice := some device.id
        loaded := some (.start track now)
        history := history.drop (history.length - historyLimit) })
  else (.error (.unknownDevice device.id), p)

/-- Answers a call. -/
def serve (now : Instant) (c : Call) (p : Player) : Except Error c.Result × Player :=
  match c with
  | .refresh => p.refresh
  | .search pattern limit => p.connected (.ok (p.search pattern limit), p)
  | .lookup id =>
    p.connected <| match p.find? id with
      | some track => (.ok track, p)
      | none => (.error (.unknownTrack id), p)
  | .current =>
    let after := p.unloadFinished now
    p.connected (.ok (after.loaded.map (·.playback now)), after)
  | .devices => p.connected (.ok p.listDevices, p)
  | .transfer device =>
    p.connected <| if p.hasDevice device.id then
        (.ok (), { p with activeDevice := some device.id })
      else (.error (.unknownDevice device.id), p)
  | .start id device => p.connected (p.start now id device)
  | .resume =>
    p.connected <| match p.loaded with
      | some l => (.ok (), { p with loaded := some (l.resume now) })
      | none => (.error .nothingLoaded, p)
  | .pause => p.connected (.ok (), { p with loaded := p.loaded.map (·.pause now) })
  | .skip =>
    p.connected <| match p.loaded with
      | some _ => (.ok (), { p with loaded := none })
      | none => (.error .nothingToSkip, p)
  | .volume => p.connected (.ok (p.loaded.map fun _ => p.volume), p)
  | .setVolume percent =>
    p.connected <| match p.loaded with
      | some _ => (.ok (), { p with volume := min percent 100 })
      | none => (.error .noActivePlayback, p)

/-- The simulated service as a backend; it answers at once. -/
def backend : Backend Player where
  name _ := "memory"
  suspends _ := false
  serve := serve

/-! ## Interventions -/

/-- Lets the access token expire. -/
def expireCredentials (p : Player) : Player :=
  { p with credentialsValid := false }

/-- Ends the loaded track. -/
def finishCurrent (p : Player) : Player :=
  { p with loaded := none }

/-- Starts a track the way another client of the service would. -/
def playExternally (p : Player) (now : Instant) (track : Track) : Player :=
  { p with loaded := some (.start track now) }

end Player
end Jukebox
