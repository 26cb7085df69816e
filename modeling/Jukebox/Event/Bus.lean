import Jukebox.Event

/-!
The event bus: events go to every receiver that was open when they were published.

A `Bus` keeps the newest events, as many as the next power of two above its capacity, and publishing
never waits.  A receiver that falls further behind than that is told once how many events it lost and
then goes on with the oldest event that is kept.  A receiver is known by its slot, and slots are never
used twice.
-/

namespace Jukebox

/-- An event bus and where each receiver stands. -/
structure Bus where
  /-- The capacity that was asked for. -/
  capacity : Nat
  /-- The number of events published so far. -/
  published : Nat
  /-- The newest events, the newest first. -/
  kept : List Event
  /-- For each slot the number of events its receiver has passed, or nothing once it is closed. -/
  receivers : List (Option Nat)

namespace Bus

/-- What a receiver gets when it asks for an event. -/
inductive Received where
  /-- The next event. -/
  | event (e : Event)
  /-- Events were lost, so many of them. -/
  | lagged (count : Nat)
  /-- There is no event now. -/
  | empty
  /-- There is no such receiver. -/
  | closed

/-- A bus that nothing was published on. -/
def new (capacity : Nat) : Bus :=
  ⟨capacity, 0, [], []⟩

/-- The number of events that are kept. -/
def bufferSize (bus : Bus) : Nat :=
  bus.capacity.nextPowerOfTwo

/-- The number of open receivers. -/
def subscriberCount (bus : Bus) : Nat :=
  bus.receivers.countP Option.isSome

/-- Opens a receiver for the events to come and answers its slot. -/
def subscribe (bus : Bus) : Nat × Bus :=
  (bus.receivers.length, { bus with receivers := bus.receivers ++ [some bus.published] })

/-- Publishes an event; without an open receiver it is not kept. -/
def publish (bus : Bus) (e : Event) : Bus :=
  if bus.subscriberCount = 0 then bus
  else { bus with published := bus.published + 1, kept := (e :: bus.kept).take bus.bufferSize }

/-- Moves the receiver in a slot to a position. -/
def moveTo (bus : Bus) (slot position : Nat) : Bus :=
  { bus with receivers := bus.receivers.set slot (some position) }

/-- The number of events that are no longer kept. -/
def dropped (bus : Bus) : Nat :=
  bus.published - bus.kept.length

/-- Gives the receiver in a slot what is next for it. -/
def receive (bus : Bus) (slot : Nat) : Received × Bus :=
  match bus.receivers[slot]?.join with
  | none => (.closed, bus)
  | some position =>
    if position < bus.dropped then
      (.lagged (bus.dropped - position), bus.moveTo slot bus.dropped)
    else
      match bus.kept[bus.published - position - 1]? with
      | some e => if position < bus.published then (.event e, bus.moveTo slot (position + 1)) else (.empty, bus)
      | none => (.empty, bus)

/-- Closes the receiver in a slot. -/
def close (bus : Bus) (slot : Nat) : Bus :=
  { bus with receivers := bus.receivers.set slot none }

/-- The events that are kept for the receiver in a slot, the oldest first; it has passed them then. -/
def drain (bus : Bus) (slot : Nat) : List Event × Bus :=
  match bus.receivers[slot]?.join with
  | none => ([], bus)
  | some position =>
    ((bus.kept.take (bus.published - position)).reverse, bus.moveTo slot bus.published)

end Bus
end Jukebox
