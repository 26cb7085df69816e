import Jukebox.Error
import Jukebox.Scheduler.State
import Jukebox.Timestamp

/-!
What the scheduler remembers between two ticks, and the rules by which it judges what a poll reports.

Main statement: a track that the scheduler started is over exactly if nothing is reported, another
track is reported, or the track has stopped near its start after it had come further
(`isFinished_iff`).
-/

namespace Jukebox.Scheduler

/-- What a party's scheduler is set to. -/
structure Settings where
  /-- The milliseconds between two ticks. -/
  interval : UInt64
  /-- The polls for which a started track may be missing. -/
  checkAttempts : UInt32
  /-- A stopped track that has come less far than this, in milliseconds, may be over. -/
  endOfTrackThreshold : UInt64
deriving DecidableEq

/-- What the scheduler remembers. -/
structure Memory where
  state : State
  /-- The track that was last handed to the playback service. -/
  requested : Option Track
  /-- The polls since then that did not report the track. -/
  attempts : UInt32
  /-- The progress of that track at the last poll that reported it. -/
  lastProgress : UInt64
  /-- What the last successful poll reported. -/
  lastPlayback : Option Playback
  /-- Why the last poll failed, if it did. -/
  lastError : Option Error
  /-- When the last poll was. -/
  polledAt : Option Timestamp
deriving DecidableEq

namespace Memory

/-- Nothing was requested or polled. -/
def new : Memory :=
  ⟨.idle, none, 0, 0, none, none, none⟩

/-- Records a poll. -/
def polled (m : Memory) (result : Except Error (Option Playback)) (now : Timestamp) : Memory :=
  match result with
  | .ok playback => { m with lastPlayback := playback, lastError := none, polledAt := some now }
  | .error e => { m with lastError := some e, polledAt := some now }

/-- Records that a track was handed to the playback service. -/
def requesting (m : Memory) (track : Track) : Memory :=
  { m with requested := some track, attempts := 0, lastProgress := 0 }

/-- The requested track and the playback last polled are of different tracks. -/
def isInconsistent (m : Memory) : Bool :=
  match m.requested, m.lastPlayback with
  | none, _ => false
  | some _, none => true
  | some track, some playback => playback.id != track.id

end Memory

/--
The expected track is over: nothing is expected or reported, or another track is reported, or the
track has stopped near its start after it had come further.
-/
def isFinished (expected : Option Track) (current : Option Playback)
    (previousProgress threshold : UInt64) : Bool :=
  match expected, current with
  | some track, some playback =>
    playback.id != track.id ||
      (!playback.isPlaying && playback.progress < threshold && threshold < previousProgress)
  | _, _ => true

/-- When an expected track that something is reported for is over. -/
theorem isFinished_iff {track : Track} {playback : Playback} {previous threshold : UInt64} :
    isFinished (some track) (some playback) previous threshold = true ↔
      playback.id ≠ track.id ∨
        playback.isPlaying = false ∧ playback.progress < threshold ∧ threshold < previous := by
  simp [isFinished, and_assoc]

/-- The expected track is reported, and it runs or has run. -/
def isConfirmed (expected : Track) (current : Playback) : Bool :=
  current.id == expected.id && (current.isPlaying || 0 < current.progress)

end Jukebox.Scheduler
