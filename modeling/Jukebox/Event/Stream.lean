import Jukebox.Codec
import Jukebox.Event.Bus
import Jukebox.Instant

/-!
Event streams: the events of a party as a client watches them.

A stream yields a frame for each event.  When nothing has been sent for a while, a comment keeps the
connection open.  Events that the bus no longer keeps are missing without notice.
-/

namespace Jukebox

/-- What is sent to a client at a time. -/
inductive Frame where
  | event (e : Event)
  | comment (text : String)

namespace Frame

/-- The lines of a frame, an empty one at its end. -/
def text : Frame → String
  | .event e => s!"event: {e.occurrence.name}\ndata: {e.toJson.print}\n\n"
  | .comment text => s!": {text}\n\n"

end Frame

/-- A client's stream: the slot of its receiver, and since when nothing was sent. -/
structure Stream where
  slot : Nat
  silentSince : Instant

namespace Stream

/-- The milliseconds of silence after which a comment is sent. -/
def patience : Nat :=
  15000

/-- The comment that keeps the connection open. -/
def keepAlive : Frame :=
  .comment "keep-alive"

/-- Opens a stream on a bus. -/
def openOn (bus : Bus) (now : Instant) : Stream × Bus :=
  let (slot, bus) := bus.subscribe
  (⟨slot, now⟩, bus)

/-- The frames that can be sent now. -/
def read (stream : Stream) (bus : Bus) (now : Instant) : List Frame × Stream × Bus :=
  let (events, bus) := bus.drain stream.slot
  if events.isEmpty then
    if patience ≤ now.since stream.silentSince then
      ([keepAlive], { stream with silentSince := now }, bus)
    else ([], stream, bus)
  else (events.map .event, { stream with silentSince := now }, bus)

/-- Closes a stream. -/
def close (stream : Stream) (bus : Bus) : Bus :=
  bus.close stream.slot

end Stream
end Jukebox
