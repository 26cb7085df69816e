import Jukebox.Queue.Entry
import Jukebox.Queue.Kind

/-!
The two queues and what may be done to them.

A `Store` holds both queues in rank order, the next sequence number, and the playback last reported.
`Store.apply` performs one operation as a whole; it answers the result, the change that observers are
to be told of, if there is one, and the store afterwards.
-/

namespace Jukebox

/-- The track waits in the queue `queue` already. -/
def Error.alreadyQueued (id : TrackId) (queue : Queue.Kind) : Error :=
  ⟨.alreadyExists, s!"track '{id.text}' is already in the {queue.name} queue"⟩

/-- The track waits in neither queue. -/
def Error.notQueued (id : TrackId) : Error :=
  ⟨.notFound, s!"track '{id.text}' is not queued"⟩

namespace Queue

/-- Both queues, each with the best entry first. -/
structure Store where
  normal : List Entry
  admin : List Entry
  /-- The number that the next entry gets. -/
  nextSequence : UInt64
  /-- The playback that was last reported. -/
  nowPlaying : Option Playback
deriving DecidableEq

/-- Why the contents of a queue changed. -/
inductive Trigger where
  | enqueued
  | voted
  | removed
  | moved
  /-- The best entry was taken off for playback. -/
  | popped
  /-- An entry that was taken off went back after it could not be played. -/
  | restored
deriving DecidableEq, Repr, Inhabited

/-- One change of a queue: what happened, to which track, and in which queue it now is or was last. -/
structure Change where
  trigger : Trigger
  track : TrackId
  queue : Kind
deriving DecidableEq, Repr, Inhabited

/-- An entry that was taken off a queue, and the queue it came from. -/
structure Popped where
  entry : Entry
  queue : Kind
deriving DecidableEq

namespace Store

/-- Empty queues. -/
def empty : Store :=
  ⟨[], [], 0, none⟩

/-- One of the two queues. -/
def queue (s : Store) : Kind → List Entry
  | .normal => s.normal
  | .admin => s.admin

/-- Replaces one of the two queues. -/
def setQueue (s : Store) (kind : Kind) (entries : List Entry) : Store :=
  match kind with
  | .normal => { s with normal := entries }
  | .admin => { s with admin := entries }

/-- The entry of a track within a list of entries. -/
def find? (entries : List Entry) (id : TrackId) : Option Entry :=
  entries.find? (·.id == id)

/-- The first queue by precedence that holds the track, and its entry there. -/
def locate (s : Store) (id : TrackId) : Option (Kind × Entry) :=
  Kind.byPrecedence.findSome? fun kind => (find? (s.queue kind) id).map (kind, ·)

/-- The track waits in one of the queues. -/
def contains (s : Store) (id : TrackId) : Bool :=
  (s.locate id).isSome

/-- The number of entries in both queues. -/
def size (s : Store) : Nat :=
  s.normal.length + s.admin.length

/-- Both queues are empty. -/
def isEmpty (s : Store) : Bool :=
  s.normal.isEmpty && s.admin.isEmpty

/-- Adds an entry and puts it in its place by rank. -/
def insert (s : Store) (kind : Kind) (e : Entry) : Store :=
  s.setQueue kind (Entry.rank (s.queue kind ++ [e]))

/-- Takes a track out of a queue. -/
def erase (s : Store) (kind : Kind) (id : TrackId) : Store :=
  s.setQueue kind ((s.queue kind).filter (·.id != id))

/-- Changes the entry of a track in a queue and ranks the queue anew. -/
def update (s : Store) (kind : Kind) (id : TrackId) (f : Entry → Entry) : Store :=
  s.setQueue kind (Entry.rank ((s.queue kind).map fun e => if e.id == id then f e else e))

/-- The store after its next sequence number was given out. -/
def advance (s : Store) : Store :=
  { s with nextSequence := s.nextSequence + 1 }

/-! ## Operations -/

/-- What an operation leads to. -/
structure Outcome (α : Type) where
  /-- The answer to the caller. -/
  reply : α
  /-- What observers are to be told. -/
  change : Option Change
  /-- The store afterwards. -/
  store : Store

/-- Adds a track without votes; a track that waits in either queue is refused. -/
def enqueue (track : Track) (kind : Kind) (s : Store) : Outcome (Except Error Unit) :=
  match s.locate track.id with
  | some (existing, _) => ⟨.error (.alreadyQueued track.id existing), none, s⟩
  | none =>
    ⟨.ok (), some ⟨.enqueued, track.id, kind⟩, s.advance.insert kind (.new track s.nextSequence)⟩

/-- Sets or withdraws one session's vote; a vote that stands already changes nothing. -/
def vote (id : TrackId) (voter : SessionId) (up : Bool) (s : Store) : Outcome (Except Error Unit) :=
  match s.locate id with
  | none => ⟨.error (.notQueued id), none, s⟩
  | some (kind, e) =>
    if e.votes.changes voter up then
      ⟨.ok (), some ⟨.voted, id, kind⟩, s.update kind id (·.setVote voter up)⟩
    else ⟨.ok (), none, s⟩

/-- Takes a track out of its queue. -/
def remove (id : TrackId) (s : Store) : Outcome (Except Error Entry) :=
  match s.locate id with
  | none => ⟨.error (.notQueued id), none, s⟩
  | some (kind, e) => ⟨.ok e, some ⟨.removed, id, kind⟩, s.erase kind id⟩

/--
Puts a track into the other queue.  It keeps its votes and gets a new sequence number, so it comes
behind all entries of equal score; a track that is in the queue already stays where it is.
-/
def move (id : TrackId) (target : Kind) (s : Store) : Outcome (Except Error Unit) :=
  match s.locate id with
  | none => ⟨.error (.notQueued id), none, s⟩
  | some (source, e) =>
    if source = target then ⟨.ok (), none, s⟩
    else
      ⟨.ok (), some ⟨.moved, id, target⟩,
        ((s.erase source id).advance).insert target { e with sequence := s.nextSequence }⟩

/-- Takes the best entry off, from the queue for administrators if that has any. -/
def pop (s : Store) : Outcome (Option Popped) :=
  match s.admin, s.normal with
  | e :: rest, _ => ⟨some ⟨e, .admin⟩, some ⟨.popped, e.id, .admin⟩, { s with admin := rest }⟩
  | [], e :: rest => ⟨some ⟨e, .normal⟩, some ⟨.popped, e.id, .normal⟩, { s with normal := rest }⟩
  | [], [] => ⟨none, none, s⟩

/--
Puts an entry back where it came from, with its votes and its sequence number, so that it regains its
rank.  If the track was added again meanwhile, the newer entry stays and nothing changes.
-/
def restore (p : Popped) (s : Store) : Outcome Bool :=
  if s.contains p.entry.id then ⟨false, none, s⟩
  else ⟨true, some ⟨.restored, p.entry.id, p.queue⟩, s.insert p.queue p.entry⟩

/-- Records what is playing. -/
def setNowPlaying (playback : Option Playback) (s : Store) : Outcome Unit :=
  ⟨(), none, { s with nowPlaying := playback }⟩

/-- An operation on the store, each performed as a whole. -/
inductive Operation where
  | enqueue (track : Track) (kind : Kind)
  | vote (id : TrackId) (voter : SessionId) (up : Bool)
  | remove (id : TrackId)
  | move (id : TrackId) (target : Kind)
  | pop
  | restore (popped : Popped)
  | setNowPlaying (playback : Option Playback)

/-- The type of the answer to an operation. -/
def Operation.Reply : Operation → Type
  | .enqueue .. | .vote .. | .move .. => Except Error Unit
  | .remove .. => Except Error Entry
  | .pop => Option Popped
  | .restore .. => Bool
  | .setNowPlaying .. => Unit

/-- Performs an operation. -/
def apply : (op : Operation) → Store → Outcome op.Reply
  | .enqueue track kind, s => s.enqueue track kind
  | .vote id voter up, s => s.vote id voter up
  | .remove id, s => s.remove id
  | .move id target, s => s.move id target
  | .pop, s => s.pop
  | .restore popped, s => s.restore popped
  | .setNowPlaying playback, s => s.setNowPlaying playback

end Store
end Queue
end Jukebox
