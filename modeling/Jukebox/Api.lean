import Jukebox.About
import Jukebox.Api.Input
import Jukebox.Codec
import Jukebox.Event.Stream
import Jukebox.Party

/-!
The HTTP API of a party.

Each request to the API is at most one request to the party.  A failure is answered with the status
that belongs to its kind and a body that repeats the status and gives the text.
-/

namespace Jukebox.Api

/-- An answer that reports a failure. -/
def failure (e : Error) : Http.Response :=
  .json e.kind.status
    (.ofMembers [("error", .ofText e.message), ("status", .ofNat e.kind.status)])

/-- A queued track as one guest sees it, in JSON. -/
def itemJson (i : Party.Item) : Json :=
  .ofMembers (i.track.members ++
    [("votes", .ofNat i.votes), ("current_vote", .bool i.currentVote)])

/-- Both queues as one guest sees them, in JSON. -/
def statusJson (s : Party.Status) : Json :=
  .ofMembers [("currently_playing", .ofOption Playback.toJson s.currentlyPlaying),
    ("normal_queue", .array (s.normalQueue.map itemJson)),
    ("admin_queue", .array (s.adminQueue.map itemJson))]

/-- The result of a request in JSON. -/
def resultJson : (r : Party.Request) → r.Result → Json
  | .openSession .., id => .ofMembers [("session_id", .ofText (id : SessionId).text)]
  | .search .., tracks => .ofMembers [("tracks", .array ((tracks : List Track).map Track.toJson))]
  | .queues .., status => statusJson status
  | .add .., _ | .vote .., _ | .control .., _ | .remove .., _ | .move .., _ => .ofMembers []

/-- The report that the party is alive. -/
def healthJson {σ : Type} (backend : Backend σ) (p : Party σ) : Json :=
  .ofMembers [("status", .ofText "ok"), ("module", .ofText About.name),
    ("version", .ofText About.version),
    ("uptime_seconds", .ofNat (p.time.secondsSince p.startedAt)),
    ("backend", .ofText (backend.name p.service)),
    ("scheduler_state", p.memory.state.toJson)]

/-- The answer that begins an event stream; the frames follow it. -/
def streamBegins : Http.Response :=
  ⟨200, some "text/event-stream", ""⟩

/-- Answers a request to an endpoint. -/
def respond {σ : Type} (backend : Backend σ) (endpoint : Endpoint) (r : Http.Request)
    (p : Party σ) : Http.Response × Party σ :=
  match request? endpoint r with
  | some (.ok request) =>
    match p.request backend request with
    | (.ok result, p) => (.json 200 (resultJson request result), p)
    | (.error e, p) => (failure e, p)
  | some (.error e) => (failure e, p)
  | none =>
    match endpoint with
    | .events => (streamBegins, p)
    | _ => (.json 200 (healthJson backend p), p)

/-- Answers a request.  Any path may be asked for its options. -/
def handle {σ : Type} (backend : Backend σ) (r : Http.Request) (p : Party σ) :
    Http.Response × Party σ :=
  if r.method = "OPTIONS" then (.bare 200, p)
  else
    match Route.ofPath? r.path with
    | none => (.bare 404, p)
    | some route =>
      match route.endpoint? r.method with
      | none => (.bare 405, p)
      | some endpoint =>
        let (response, p) := respond backend endpoint r p
        (if r.method = "HEAD" then response.withoutBody else response, p)

/-- Opens an event stream on a party. -/
def watch {σ : Type} (p : Party σ) : Stream × Party σ :=
  let (stream, bus) := Stream.openOn p.bus p.clock
  (stream, { p with bus := bus })

/-- The frames that can be sent on a stream now. -/
def frames {σ : Type} (stream : Stream) (p : Party σ) : List Frame × Stream × Party σ :=
  let (frames, stream, bus) := stream.read p.bus p.clock
  (frames, stream, { p with bus := bus })

/-- Closes an event stream. -/
def unwatch {σ : Type} (stream : Stream) (p : Party σ) : Party σ :=
  { p with bus := stream.close p.bus }

end Jukebox.Api
