import Jukebox.Queue.Store
import Jukebox.Scheduler.State
import Jukebox.Timestamp

/-!
Events: what observers of a party are told.
-/

namespace Jukebox

/-- What happened. -/
inductive Occurrence where
  /-- The contents or the order of a queue changed. -/
  | queueChanged (change : Queue.Change)
  /-- A track was handed to the playback service. -/
  | trackStarted (track : TrackId) (title artist : String)
  /-- The scheduler went from one state to another. -/
  | schedulerStateChanged (old new : Scheduler.State)
  /-- A guest changed the volume. -/
  | volumeChanged (volume : UInt8)
deriving DecidableEq, Repr, Inhabited

namespace Occurrence

/-- The name of the kind of event. -/
def name : Occurrence → String
  | .queueChanged .. => "QueueChanged"
  | .trackStarted .. => "TrackStarted"
  | .schedulerStateChanged .. => "SchedulerStateChanged"
  | .volumeChanged .. => "VolumeChanged"

end Occurrence

/-- What happened, and when. -/
structure Event where
  occurrence : Occurrence
  timestamp : Timestamp
deriving DecidableEq, Inhabited

end Jukebox
