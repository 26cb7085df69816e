import Jukebox.Control
import Jukebox.Event
import Jukebox.Json.Printer
import Jukebox.Json.Reader
import Jukebox.Json.Record
import Jukebox.Timestamp.Reader

/-!
The JSON form of tracks, playbacks, devices, events and the words for states and actions.

For every type there is a function that writes a value and one that reads it.
-/

namespace Jukebox

open Json (required optional text? bool? uint64? uint8?)

/-! ## Tracks -/

namespace TrackId

/-- Writes the name of a track. -/
def toJson (id : TrackId) : Json :=
  .ofText id.text

/-- Reads the name of a track. -/
def ofJson? (j : Json) : Option TrackId :=
  (text? j).map (⟨·⟩)

end TrackId

namespace Track

/-- The fields of a track. -/
def fieldNames : List String :=
  ["track_id", "title", "artist", "album", "duration_ms", "icon_uri"]

/-- The fields of a track and their values. -/
def members (t : Track) : List (String × Json) :=
  [("track_id", t.id.toJson), ("title", .ofText t.title), ("artist", .ofText t.artist),
    ("album", .ofText t.album), ("duration_ms", .ofNat t.duration.toNat),
    ("icon_uri", .ofText t.icon)]

/-- Writes a track. -/
def toJson (t : Track) : Json :=
  .ofMembers t.members

/-- The track with these values of its fields. -/
def ofFields? : List (Option Json) → Option Track
  | [id, title, artist, album, duration, icon] => do
    return ⟨← required TrackId.ofJson? id, ← required text? title, ← required text? artist,
      ← required text? album, ← required uint64? duration, ← required text? icon⟩
  | _ => none

/-- Reads a track. -/
def ofJson? (j : Json) : Option Track :=
  (j.record fieldNames fieldNames.length).bind ofFields?

end Track

namespace Playback

/-- The fields that a playback has beside those of its track. -/
def ownFieldNames : List String :=
  ["is_playing", "progress_ms"]

/-- Writes a playback; the fields of the track and its own fields stand side by side. -/
def toJson (p : Playback) : Json :=
  .ofMembers (p.track.members ++
    [("is_playing", .bool p.isPlaying), ("progress_ms", .ofNat p.progress.toNat)])

/-- Other members of a record are kept until it is known whose they are, if they can be. -/
def canBeKept (members : List (Option String × Json)) : Bool :=
  Json.depth (.object members) ≤ 127 && Json.membersSound members

/-- Reads a playback, which cannot be written as an array. -/
def ofJson? : Json → Option Playback
  | .object members => do
    let own ← Json.recordOfMembers ownFieldNames members
    let others := members.filter fun (key, _) => !(ownFieldNames.map some).contains key
    let track ← (Json.recordOfMembers Track.fieldNames others).bind Track.ofFields?
    match own with
    | [isPlaying, progress] =>
      if canBeKept others then
        return ⟨track, ← required bool? isPlaying, ← required uint64? progress⟩
      else none
    | _ => none
  | _ => none

end Playback

namespace Device

/-- The fields of a device. -/
def fieldNames : List String :=
  ["id", "name", "is_active", "volume_percent"]

/-- Writes a device. -/
def toJson (d : Device) : Json :=
  .ofMembers [("id", .ofText d.id), ("name", .ofText d.name), ("is_active", .bool d.isActive),
    ("volume_percent", .ofOption (fun v => .ofNat v.toNat) d.volume)]

/-- Reads a device. -/
def ofJson? (j : Json) : Option Device := do
  match ← j.record fieldNames fieldNames.length with
  | [id, name, isActive, volume] =>
    return ⟨← required text? id, ← required text? name, ← required bool? isActive,
      ← optional uint8? volume⟩
  | _ => none

end Device

/-- Writes a queued track; the votes for it are left out. -/
def Queue.Entry.toJson (e : Queue.Entry) : Json :=
  .ofMembers [("track", e.track.toJson), ("insertion_sequence", .ofNat e.sequence.toNat)]

/-! ## Words -/

/-- Writes the word for a queue. -/
def Queue.Kind.toJson (kind : Queue.Kind) : Json :=
  .ofText kind.name

/-- Reads the word for a queue. -/
def Queue.Kind.ofJson? : Json → Option Queue.Kind :=
  Json.word? ofName?

/-- Writes the word for a state. -/
def Scheduler.State.toJson (state : Scheduler.State) : Json :=
  .ofText state.name

/-- Reads the word for a state. -/
def Scheduler.State.ofJson? : Json → Option Scheduler.State :=
  Json.word? ofName?

/-- Writes the word for a player action. -/
def Control.toJson (action : Control) : Json :=
  .ofText action.name

/-- Reads the word for a player action. -/
def Control.ofJson? : Json → Option Control :=
  Json.word? ofName?

namespace Queue.Trigger

/-- The word for the reason of a change. -/
def name : Trigger → String
  | .enqueued => "enqueued"
  | .voted => "voted"
  | .removed => "removed"
  | .moved => "moved"
  | .popped => "popped"
  | .restored => "restored"

/-- The reason that a word names. -/
def ofName? : String → Option Trigger
  | "enqueued" => some .enqueued
  | "voted" => some .voted
  | "removed" => some .removed
  | "moved" => some .moved
  | "popped" => some .popped
  | "restored" => some .restored
  | _ => none

/-- The word for a reason names it. -/
@[simp]
theorem ofName?_name (trigger : Trigger) : ofName? trigger.name = some trigger := by
  cases trigger <;> rfl

end Queue.Trigger

/-! ## Events -/

/-- Writes a moment. -/
def Timestamp.toJson (t : Timestamp) : Json :=
  .ofText t.text

/-- Reads a moment. -/
def Timestamp.ofJson? (j : Json) : Option Timestamp :=
  (text? j).bind ofText?

namespace Occurrence

/-- What an occurrence has beside its kind and its time. -/
def members : Occurrence → List (String × Json)
  | .queueChanged c =>
    [("trigger", .ofText c.trigger.name), ("track_id", c.track.toJson),
      ("queue_type", c.queue.toJson)]
  | .trackStarted id title artist =>
    [("track_id", id.toJson), ("title", .ofText title), ("artist", .ofText artist)]
  | .schedulerStateChanged old new => [("old_state", old.toJson), ("new_state", new.toJson)]
  | .volumeChanged volume => [("volume", .ofNat volume.toNat)]

/-- A word within an event; it may also be the key of an object with nothing in it. -/
def word? {α : Type} (ofName? : String → Option α) : Json → Option α
  | .object [(key, .object [])] => key.bind ofName?
  | j => Json.word? ofName? j

/-- The names of the fields of each kind of event, and how to read their values. -/
def reader? : String → Option (List String × (List (Option Json) → Option Event))
  | "QueueChanged" =>
    some (["trigger", "track_id", "queue_type", "timestamp"], fun
      | [trigger, track, queue, time] => do
        return ⟨.queueChanged ⟨← required (word? Queue.Trigger.ofName?) trigger,
          ← required TrackId.ofJson? track, ← required (word? Queue.Kind.ofName?) queue⟩,
          ← required Timestamp.ofJson? time⟩
      | _ => none)
  | "TrackStarted" =>
    some (["track_id", "title", "artist", "timestamp"], fun
      | [id, title, artist, time] => do
        return ⟨.trackStarted (← required TrackId.ofJson? id) (← required text? title)
          (← required text? artist), ← required Timestamp.ofJson? time⟩
      | _ => none)
  | "SchedulerStateChanged" =>
    some (["old_state", "new_state", "timestamp"], fun
      | [old, new, time] => do
        return ⟨.schedulerStateChanged (← required (word? Scheduler.State.ofName?) old)
          (← required (word? Scheduler.State.ofName?) new), ← required Timestamp.ofJson? time⟩
      | _ => none)
  | "VolumeChanged" =>
    some (["volume", "timestamp"], fun
      | [volume, time] => do
        return ⟨.volumeChanged (← required uint8? volume), ← required Timestamp.ofJson? time⟩
      | _ => none)
  | _ => none

end Occurrence

namespace Event

/-- Writes an event. -/
def toJson (e : Event) : Json :=
  .ofMembers (("type", .ofText e.occurrence.name) ::
    (e.occurrence.members ++ [("timestamp", e.timestamp.toJson)]))

/-- Separates the kind of an event from the rest of it. -/
def separateKind : Json → Option (Json × Json)
  | .object members =>
    match Json.valuesOf members "type" with
    | [kind] => some (kind, .object (members.filter fun (key, _) => key ≠ some "type"))
    | _ => none
  | .array (kind :: items) => some (kind, .array items)
  | _ => none

/-- Reads an event. -/
def ofJson? (j : Json) : Option Event := do
  let (kind, rest) ← separateKind j
  let (names, read) ← Occurrence.reader? (← text? kind)
  if j.depth ≤ 127 && rest.isSound then (rest.record names names.length).bind read else none

end Event
end Jukebox
