import Jukebox.Control
import Jukebox.Party.Action

/-!
What guests may ask of a party.

Every request but opening a session and searching names the session it comes from; what only
administrators may do is refused to others before anything is done.
-/

namespace Jukebox

/-- The operation `what` is for administrators. -/
def Error.adminRequired (what : String) : Error :=
  ⟨.accessDenied, s!"{what} requires an admin session"⟩

/-- A search asks for no results, or fewer. -/
def Error.limitNotPositive (limit : Int) : Error :=
  ⟨.invalidValue, s!"max_entries must be positive, got {limit}"⟩

namespace Party

/-- How a party treats requests. -/
structure Rules where
  /-- The password that makes a session an administrator's; without one, every session is. -/
  adminPassword : Option String
  /-- The name of the device to play on, if it is there. -/
  preferredDevice : Option String
  /-- By how much percent a guest changes the volume at a time. -/
  volumeStep : UInt8
deriving DecidableEq

/-- A queued track as one guest sees it. -/
structure Item where
  track : Track
  votes : Nat
  /-- The guest votes for the track. -/
  currentVote : Bool
deriving DecidableEq

/-- Both queues as one guest sees them, and what is playing. -/
structure Status where
  currentlyPlaying : Option Playback
  normalQueue : List Item
  adminQueue : List Item
deriving DecidableEq

/-- A guest's view of an entry. -/
def Item.ofEntry (viewer : SessionId) (e : Queue.Entry) : Item :=
  ⟨e.track, e.score, decide (viewer ∈ e.votes)⟩

/-- A guest's view of the queues. -/
def Status.ofStore (viewer : SessionId) (s : Queue.Store) : Status :=
  ⟨s.nowPlaying, s.normal.map (Item.ofEntry viewer), s.admin.map (Item.ofEntry viewer)⟩

/-- A password makes a session an administrator's; an empty password of the party counts as none. -/
def Rules.grantsAdmin (rules : Rules) (password : Option String) : Bool :=
  match rules.adminPassword.filter (· != "") with
  | none => true
  | some expected => password == some expected

/-- So many tracks are searched for if a guest does not say how many. -/
def defaultLimit : Nat :=
  50

/-- Lets administrators pass. -/
def requireAdmin (session : Session) (what : String) : Task Unit :=
  if session.isAdmin then pure () else throw (.adminRequired what)

/-! ## Requests -/

/-- Opens a session.  A wrong password opens one without special rights. -/
def openSession (rules : Rules) (password nickname : Option String) : Task SessionId := do
  let session ← step (.addSession nickname (rules.grantsAdmin password))
  pure (session : Session).id

/-- Searches for tracks and remembers what was found. -/
def search (pattern : String) (limit : Option Int) : Task (List Track) := do
  let limit ← match limit with
    | none => pure defaultLimit
    | some n => if 0 < n then pure n.toNat else throw (.limitNotPositive n)
  let tracks ← gateway (Gateway.search pattern limit)
  step (.rememberTracks tracks)
  pure tracks

/-- Shows both queues and what is playing. -/
def queues (session : SessionId) : Task Status := do
  let _ ← findSession session
  let s ← step .readStore
  pure (.ofStore session s)

/-- The track of a name, asked of the playback service only if it was not seen before. -/
def resolve (id : TrackId) : Task Track := do
  match (← step (.recallTrack id) : Option Track) with
  | some track => pure track
  | none =>
    let track ← gateway (Gateway.lookup id)
    step (.rememberTracks [track])
    pure track

/-- Adds a track to a queue. -/
def add (session : SessionId) (id : TrackId) (queue : Queue.Kind) : Task Unit := do
  let session ← findSession session
  if queue = .admin then requireAdmin session "adding to the admin queue"
  let track ← resolve id
  ExceptT.mk (commit (.enqueue track queue))

/-- Votes for a queued track, or withdraws the vote. -/
def vote (session : SessionId) (id : TrackId) (up : Bool) : Task Unit := do
  let _ ← findSession session
  ExceptT.mk (commit (.vote id session up))

/-- Changes the volume and tells observers. -/
def stepVolume (delta : Int16) : Task Unit := do
  let volume ← gateway (Gateway.adjustVolume delta)
  step (.publish (.volumeChanged volume))

/-- Controls the player. -/
def control (rules : Rules) (session : SessionId) (action : Control) : Task Unit := do
  let session ← findSession session
  requireAdmin session "controlling the player"
  let delta := Int16.ofNat rules.volumeStep.toNat
  match action with
  | .play => gateway Gateway.resume
  | .pause | .stop => gateway Gateway.pause
  | .skip => gateway Gateway.skip
  | .volumeUp => stepVolume delta
  | .volumeDown => stepVolume (-delta)

/-- Takes a track out of its queue. -/
def remove (session : SessionId) (id : TrackId) : Task Unit := do
  let session ← findSession session
  requireAdmin session "removing tracks"
  let _ ← (ExceptT.mk (commit (.remove id)) : Task Queue.Entry)

/-- Puts a track into the other queue. -/
def move (session : SessionId) (id : TrackId) (queue : Queue.Kind) : Task Unit := do
  let session ← findSession session
  requireAdmin session "moving tracks"
  ExceptT.mk (commit (.move id queue))

/-- The requests of guests. -/
inductive Request where
  | openSession (password nickname : Option String)
  | search (pattern : String) (limit : Option Int)
  | queues (session : SessionId)
  | add (session : SessionId) (track : TrackId) (queue : Queue.Kind)
  | vote (session : SessionId) (track : TrackId) (up : Bool)
  | control (session : SessionId) (action : Control)
  | remove (session : SessionId) (track : TrackId)
  | move (session : SessionId) (track : TrackId) (queue : Queue.Kind)
deriving DecidableEq

/-- What a successful request answers. -/
def Request.Result : Request → Type
  | .openSession .. => SessionId
  | .search .. => List Track
  | .queues .. => Status
  | .add .. | .vote .. | .control .. | .remove .. | .move .. => Unit

/-- The steps of a request. -/
def Request.task (rules : Rules) : (r : Request) → Task r.Result
  | .openSession password nickname => Party.openSession rules password nickname
  | .search pattern limit => Party.search pattern limit
  | .queues session => Party.queues session
  | .add session track queue => Party.add session track queue
  | .vote session track up => Party.vote session track up
  | .control session action => Party.control rules session action
  | .remove session track => Party.remove session track
  | .move session track queue => Party.move session track queue

end Party
end Jukebox
