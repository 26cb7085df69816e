import Jukebox.Event
import Jukebox.Gateway
import Jukebox.Scheduler.Memory
import Jukebox.Session

/-!
The steps of which requests and scheduler ticks are made.

Each step is performed as a whole; between two of them, steps of other requests may come.  In
particular a change of a queue and the event that reports it are two steps.
-/

namespace Jukebox.Party

/-- One step. -/
inductive Action where
  /-- A step of a gateway operation. -/
  | gateway (a : Gateway.Action)
  /-- Perform an operation on the queues. -/
  | store (op : Queue.Store.Operation)
  /-- Look at the queues. -/
  | readStore
  /-- Create a session. -/
  | addSession (nickname : Option String) (isAdmin : Bool)
  /-- Look a session up. -/
  | findSession (id : SessionId)
  /-- Tell observers what happened. -/
  | publish (occurrence : Occurrence)
  /-- Look a track up among those seen before. -/
  | recallTrack (id : TrackId)
  /-- Remember tracks that were seen. -/
  | rememberTracks (tracks : List Track)
  /-- Look at the scheduler's memory. -/
  | readMemory
  /-- Change the scheduler's memory. -/
  | updateMemory (change : Scheduler.Memory → Scheduler.Memory)
  /-- Ask for the time. -/
  | readTime

/-- What a step answers. -/
def Action.Answer : Action → Type
  | .gateway a => a.Answer
  | .store op => op.Reply × Option Queue.Change
  | .readStore => Queue.Store
  | .addSession .. => Session
  | .findSession _ => Except Error Session
  | .recallTrack _ => Option Track
  | .readMemory => Scheduler.Memory
  | .readTime => Timestamp
  | .publish _ | .rememberTracks _ | .updateMemory _ => Unit

/-- The interface of requests and ticks. -/
abbrev interface : Interface :=
  ⟨Action, Action.Answer⟩

/-- Something done at a party that may fail. -/
abbrev Task (α : Type) :=
  ExceptT Error (Program interface) α

/-- One step. -/
def step (a : Action) : Program interface a.Answer :=
  Program.request (I := interface) a

/-- A gateway operation. -/
def gateway {α : Type} (task : Gateway.Task α) : Task α :=
  ExceptT.mk (Program.interpret (J := interface) (fun a => step (.gateway a)) task.run)

/-- An operation on the queues; observers are told afterwards if it changed anything. -/
def commit (op : Queue.Store.Operation) : Program interface op.Reply := do
  let outcome ← step (.store op)
  match (outcome : op.Reply × Option Queue.Change).2 with
  | some change => step (.publish (.queueChanged change))
  | none => pure ()
  pure outcome.1

/-- The session of this name. -/
def findSession (id : SessionId) : Task Session :=
  ExceptT.mk (step (.findSession id))

end Jukebox.Party
