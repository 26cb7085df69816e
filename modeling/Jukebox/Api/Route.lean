/-!
The paths of the API and what may be done at each.
-/

namespace Jukebox.Api

/-- What a request to the API is for. -/
inductive Endpoint where
  | health
  | openSession
  | search
  | queues
  | add
  | move
  | remove
  | vote
  | control
  /-- Watch the events of the party. -/
  | events
deriving DecidableEq, Repr

/-- The paths of the API. -/
inductive Route where
  | health
  | session
  | tracks
  | queue
  | queueTrack
  | vote
  | control
  | events
deriving DecidableEq, Repr

namespace Route

/-- The route of a path, which must be given exactly. -/
def ofPath? : String → Option Route
  | "/health" => some .health
  | "/api/v1/session" => some .session
  | "/api/v1/tracks" => some .tracks
  | "/api/v1/queue" => some .queue
  | "/api/v1/queue/track" => some .queueTrack
  | "/api/v1/track/vote" => some .vote
  | "/api/v1/player/control" => some .control
  | "/api/v1/events" => some .events
  | _ => none

/-- What a method means at a route; what can be had by `GET` can be had by `HEAD`. -/
def endpoint? : Route → String → Option Endpoint
  | .health, "GET" | .health, "HEAD" => some .health
  | .session, "POST" => some .openSession
  | .tracks, "GET" | .tracks, "HEAD" => some .search
  | .queue, "GET" | .queue, "HEAD" => some .queues
  | .queueTrack, "POST" => some .add
  | .queueTrack, "PUT" => some .move
  | .queueTrack, "DELETE" => some .remove
  | .vote, "PUT" => some .vote
  | .control, "PUT" => some .control
  | .events, "GET" | .events, "HEAD" => some .events
  | _, _ => none

end Route
end Jukebox.Api
