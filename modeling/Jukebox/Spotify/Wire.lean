import Jukebox.Device
import Jukebox.Json.Printer
import Jukebox.Json.Reader
import Jukebox.Json.Record

/-!
The JSON that is exchanged with Spotify.

Answers are read as far as they matter here; other members of an object are passed over.
-/

namespace Jukebox.Spotify

open Json (required optional withDefault list? text? bool? uint64? uint8?)

/-- A record with the given fields, the first `needed` of which an array must hold. -/
def fieldsOf? {α : Type} (names : List String) (needed : Nat)
    (read : List (Option Json) → Option α) (j : Json) : Option α :=
  (j.record names needed).bind read

/-- A record of one text. -/
def onlyText? (name : String) : Json → Option String :=
  fieldsOf? [name] 1 fun
    | [value] => required text? value
    | _ => none

/-- An album: its name and the address of its first image, empty if it has none. -/
def album? : Json → Option (String × String) :=
  fieldsOf? ["name", "images"] 1 fun
    | [name, images] => do
      let images ← withDefault [] (list? (onlyText? "url")) images
      return (← required text? name, images.headD "")
    | _ => none

/-- A track, known by its URI. -/
def track? : Json → Option Track :=
  fieldsOf? ["uri", "name", "duration_ms", "artists", "album"] 5 fun
    | [uri, name, duration, artists, album] => do
      let artists ← withDefault [] (list? (onlyText? "name")) artists
      let (album, icon) ← required album? album
      return ⟨⟨← required text? uri⟩, ← required text? name, joinArtists artists, album,
        ← required uint64? duration, icon⟩
    | _ => none

/-- A device as it is listed; one that cannot be addressed has no name of its own to call it by. -/
structure ListedDevice where
  id : Option String
  name : String
  isActive : Bool
  volume : Option UInt8
deriving DecidableEq

/-- The device, if it can be addressed. -/
def ListedDevice.addressed? (d : ListedDevice) : Option Device :=
  d.id.map fun id => ⟨id, d.name, d.isActive, d.volume⟩

/-- A listed device. -/
def listedDevice? : Json → Option ListedDevice :=
  fieldsOf? ["id", "name", "is_active", "volume_percent"] 4 fun
    | [id, name, isActive, volume] => do
      return ⟨← optional text? id, ← required text? name, ← withDefault false bool? isActive,
        ← optional uint8? volume⟩
    | _ => none

/-- The devices of an account. -/
def devices? : Json → Option (List ListedDevice) :=
  fieldsOf? ["devices"] 1 fun
    | [devices] => required (list? listedDevice?) devices
    | _ => none

/-- The state of the player of an account. -/
structure PlayerState where
  isPlaying : Bool
  progress : Option UInt64
  item : Option Track
  device : Option ListedDevice

/-- What is loaded, if anything is. -/
def PlayerState.playback? (s : PlayerState) : Option Playback :=
  s.item.map fun track => ⟨track, s.isPlaying, s.progress.getD 0⟩

/-- The state of the player. -/
def playerState? : Json → Option PlayerState :=
  fieldsOf? ["is_playing", "progress_ms", "item", "device"] 4 fun
    | [isPlaying, progress, item, device] => do
      return ⟨← withDefault false bool? isPlaying, ← optional uint64? progress,
        ← optional track? item, ← optional listedDevice? device⟩
    | _ => none

/-- The tracks that a search found. -/
def found? : Json → Option (List Track) :=
  fieldsOf? ["tracks"] 1 fun
    | [tracks] =>
      required (fieldsOf? ["items"] 1 fun
        | [items] => required (list? track?) items
        | _ => none) tracks
    | _ => none

/-- What is issued for a refresh token. -/
structure Issue where
  accessToken : String
  /-- The seconds for which the access token is valid. -/
  lifetime : Nat
  /-- The refresh token to use from now on, if it changes. -/
  refreshToken : Option String
deriving DecidableEq, Repr

/-- What is issued for a refresh token. -/
def issue? : Json → Option Issue :=
  fieldsOf? ["access_token", "expires_in", "refresh_token"] 3 fun
    | [token, lifetime, refreshToken] => do
      return ⟨← required text? token, (← required uint64? lifetime).toNat,
        ← optional text? refreshToken⟩
    | _ => none

/-! ## What is sent -/

/-- Asks to make a device the active one without starting playback. -/
def transferBody (device : Device) : String :=
  (Json.ofMembers [("device_ids", .array [.ofText device.id]), ("play", .bool false)]).print

/-- Asks to play a track. -/
def playBody (uri : String) : String :=
  (Json.ofMembers [("uris", .array [.ofText uri])]).print

end Jukebox.Spotify
