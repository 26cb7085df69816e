import Jukebox.Event.Bus

/-!
# What waits for a receiver

`Waiting bus slot events` says that `events`, the oldest first, were published since the receiver in the
slot passed the last one.  Publishing puts an event at their end, whatever else goes on at the bus
(`Waiting.publish`), and the other receivers have no part in it (`Waiting.elsewhere`).  So a receiver has a
mailbox of its own, although there is one buffer for all.

    drained, a receiver gets the newest events of its mailbox                 (Waiting.drain)
    asked again and again, it gets the same, after one notice if some are lost (Waiting.receiveAll)
-/

namespace Jukebox

/-- The last `n` elements of a list. -/
def newest {α : Type} (n : Nat) (l : List α) : List α :=
  l.drop (l.length - n)

theorem newest_eq_self {α : Type} {n : Nat} {l : List α} (short : l.length ≤ n) : newest n l = l := by
  simp [newest, Nat.sub_eq_zero_of_le short]

theorem newest_sublist {α : Type} (n : Nat) (l : List α) : (newest n l).Sublist l :=
  List.drop_sublist _ _

theorem length_newest {α : Type} (n : Nat) (l : List α) : (newest n l).length = min n l.length := by
  simp only [newest, List.length_drop]
  omega

theorem newest_eq_nil {α : Type} {n : Nat} {l : List α} (positive : 0 < n) :
    newest n l = [] ↔ l = [] := by
  rw [← List.length_eq_zero_iff, ← List.length_eq_zero_iff, length_newest]
  omega

/-- What is followed by fewer than `n` elements is among the last `n`. -/
theorem mem_newest {α : Type} {n : Nat} {before after : List α} {a : α} (few : after.length < n) :
    a ∈ newest n (before ++ a :: after) := by
  have place : (before ++ a :: after).length - n ≤ before.length := by
    simp only [List.length_append, List.length_cons]
    omega
  rw [newest, List.drop_append_of_le_length place]
  simp

theorem reverse_take_reverse {α : Type} (n : Nat) (l : List α) :
    (l.reverse.take n).reverse = newest n l := by
  simp [newest, List.reverse_take]

/-- Where the front of one list is all that is kept of another, so it is with one more element in front of
both. -/
theorem take_take_cons {α : Type} {n len : Nat} {kept all : List α} (a : α)
    (same : kept.take len = all.take n) :
    ((a :: kept).take n).take (len + 1) = (a :: all).take n := by
  cases n with
  | zero => simp
  | succ n =>
    have swapped : (kept.take n).take len = all.take n := by
      rw [List.take_take, Nat.min_comm, ← List.take_take, same, List.take_take, Nat.min_eq_left (by omega)]
    simp [swapped]

namespace Bus

/-- The receiver in the slot is open, and these events were published since it passed the last one, the
oldest first.  The bus keeps the newest of them. -/
structure Waiting (bus : Bus) (slot : Nat) (events : List Event) : Prop where
  counted : events.length ≤ bus.published
  position : bus.receivers[slot]? = some (some (bus.published - events.length))
  kept : bus.kept.take events.length = events.reverse.take bus.bufferSize

namespace Waiting

variable {bus : Bus} {slot : Nat} {events : List Event}

theorem slot_lt (waiting : Waiting bus slot events) : slot < bus.receivers.length := by
  obtain ⟨inside, -⟩ := List.getElem?_eq_some_iff.mp waiting.position
  exact inside

/-- What happens at other slots makes no difference. -/
theorem elsewhere (waiting : Waiting bus slot events) {receivers : List (Option Nat)}
    (same : receivers[slot]? = bus.receivers[slot]?) :
    Waiting { bus with receivers := receivers } slot events :=
  ⟨waiting.counted, same.trans waiting.position, waiting.kept⟩

theorem subscribe (waiting : Waiting bus slot events) : Waiting bus.subscribe.2 slot events :=
  waiting.elsewhere (List.getElem?_append_left waiting.slot_lt)

theorem moveTo_other (waiting : Waiting bus slot events) {other : Nat} (apart : other ≠ slot)
    (position : Nat) : Waiting (bus.moveTo other position) slot events :=
  waiting.elsewhere (List.getElem?_set_ne apart)

theorem close_other (waiting : Waiting bus slot events) {other : Nat} (apart : other ≠ slot) :
    Waiting (bus.close other) slot events :=
  waiting.elsewhere (List.getElem?_set_ne apart)

theorem drain_other (waiting : Waiting bus slot events) {other : Nat} (apart : other ≠ slot) :
    Waiting (bus.drain other).2 slot events := by
  unfold drain
  split
  · exact waiting
  · exact waiting.moveTo_other apart _

/-- A receiver that was just opened has nothing to wait for. -/
theorem opened (bus : Bus) : Waiting bus.subscribe.2 bus.subscribe.1 [] :=
  ⟨Nat.zero_le _, by simp [Bus.subscribe], by simp⟩

theorem subscribed (waiting : Waiting bus slot events) : bus.subscriberCount ≠ 0 := by
  have member : some (bus.published - events.length) ∈ bus.receivers :=
    List.mem_of_getElem? waiting.position
  have positive : 0 < bus.subscriberCount := List.countP_pos_iff.mpr ⟨_, member, rfl⟩
  omega

theorem publish (waiting : Waiting bus slot events) (e : Event) :
    Waiting (bus.publish e) slot (events ++ [e]) := by
  have counted := waiting.counted
  rw [Bus.publish, if_neg waiting.subscribed]
  refine ⟨?_, ?_, ?_⟩
  · simp only [List.length_append, List.length_singleton]
    omega
  · simp only [List.length_append, List.length_singleton, Nat.add_sub_add_right]
    exact waiting.position
  · have kept := take_take_cons e waiting.kept
    simpa [Bus.bufferSize] using kept

/-- A receiver that is drained gets the newest of the events that waited for it. -/
theorem drain (waiting : Waiting bus slot events) :
    bus.drain slot = (newest bus.bufferSize events, bus.moveTo slot bus.published) := by
  have counted := waiting.counted
  have unread : bus.published - (bus.published - events.length) = events.length := by omega
  simp only [Bus.drain, waiting.position, Option.join_some, unread, waiting.kept, reverse_take_reverse]

/-- Moved on, a receiver has the last events left to wait for. -/
theorem moveTo {before rest : List Event} (waiting : Waiting bus slot (before ++ rest)) :
    Waiting (bus.moveTo slot (bus.published - rest.length)) slot rest := by
  have counted : before.length + rest.length ≤ bus.published := by simpa using waiting.counted
  refine ⟨?_, ?_, ?_⟩
  · show rest.length ≤ bus.published
    omega
  · exact List.getElem?_set_self waiting.slot_lt
  · show bus.kept.take rest.length = rest.reverse.take bus.bufferSize
    have kept : bus.kept.take (before.length + rest.length) =
        (rest.reverse ++ before.reverse).take bus.bufferSize := by simpa using waiting.kept
    calc bus.kept.take rest.length
        = (bus.kept.take (before.length + rest.length)).take rest.length := by
          rw [List.take_take, Nat.min_eq_left (by omega)]
      _ = ((rest.reverse ++ before.reverse).take rest.length).take bus.bufferSize := by
          rw [kept, List.take_take, List.take_take, Nat.min_comm]
      _ = rest.reverse.take bus.bufferSize := by
          rw [List.take_left' (by simp)]

theorem drained (waiting : Waiting bus slot events) : Waiting (bus.drain slot).2 slot [] := by
  have empty : Waiting bus slot (events ++ []) := by simpa using waiting
  rw [waiting.drain]
  exact empty.moveTo

/-! ## Asking for one event at a time -/

theorem length_kept (waiting : Waiting bus slot events) :
    min events.length bus.kept.length = min bus.bufferSize events.length := by
  simpa using congrArg List.length waiting.kept

/-- While all that waits is kept, a receiver gets the oldest of it. -/
theorem receive_event {e : Event} {rest : List Event} (waiting : Waiting bus slot (e :: rest))
    (few : rest.length < bus.bufferSize) :
    bus.receive slot = (.event e, bus.moveTo slot (bus.published - rest.length)) := by
  have counted := waiting.counted
  have length := waiting.length_kept
  rw [List.length_cons] at counted length
  have upToDate : ¬ bus.published - (rest.length + 1) < bus.dropped := by
    simp only [dropped]
    omega
  have index : bus.published - (bus.published - (rest.length + 1)) - 1 = rest.length := by omega
  have oldest : bus.kept[rest.length]? = some e := by
    have found := congrArg (·[rest.length]?) waiting.kept
    simp only [List.length_cons, List.getElem?_take, few, if_true, Nat.lt_succ_self] at found
    simpa using found
  have next : bus.published - (rest.length + 1) + 1 = bus.published - rest.length := by omega
  have before : bus.published - (rest.length + 1) < bus.published := by omega
  simp only [receive, waiting.position, Option.join_some, List.length_cons, if_neg upToDate, index, oldest,
    if_pos before, next]

/-- Where more waits than is kept, a receiver is told once and goes on with what is kept. -/
theorem receive_lagged (waiting : Waiting bus slot events) (many : bus.bufferSize < events.length) :
    bus.receive slot = (.lagged (events.length - bus.bufferSize),
      bus.moveTo slot (bus.published - bus.bufferSize)) := by
  have counted := waiting.counted
  have length := waiting.length_kept
  have dropped : bus.dropped = bus.published - bus.bufferSize := by
    simp only [Bus.dropped]
    omega
  have behind : bus.published - events.length < bus.published - bus.bufferSize := by omega
  have lost : bus.published - bus.bufferSize - (bus.published - events.length) =
      events.length - bus.bufferSize := by omega
  simp only [receive, waiting.position, Option.join_some, dropped, if_pos behind, lost]

theorem receive_empty (waiting : Waiting bus slot []) : bus.receive slot = (.empty, bus) := by
  have upToDate : ¬ bus.published < bus.dropped := by
    simp only [dropped]
    omega
  simp only [receive, waiting.position, Option.join_some, List.length_nil, Nat.sub_zero, if_neg upToDate,
    Nat.lt_irrefl, if_false]
  split <;> rfl

end Waiting

/-- The events that a receiver gets that asks so many times and passes over notices. -/
def receiveAll (slot : Nat) : Nat → Bus → List Event × Bus
  | 0, bus => ([], bus)
  | n + 1, bus =>
    match bus.receive slot with
    | (.event e, bus) =>
      let (events, bus) := receiveAll slot n bus
      (e :: events, bus)
    | (_, bus) => receiveAll slot n bus

theorem moveTo_moveTo (bus : Bus) (slot first second : Nat) :
    (bus.moveTo slot first).moveTo slot second = bus.moveTo slot second := by
  simp [moveTo]

namespace Waiting

variable {bus : Bus} {slot : Nat} {events : List Event}

theorem moveTo_published (waiting : Waiting bus slot []) : bus.moveTo slot bus.published = bus := by
  have same : bus.receivers.set slot (some bus.published) = bus.receivers := by
    obtain ⟨inside, value⟩ := List.getElem?_eq_some_iff.mp waiting.position
    rw [List.length_nil, Nat.sub_zero] at value
    rw [← value, List.set_getElem_self]
  simp only [Bus.moveTo, same]

theorem receiveAll_empty (waiting : Waiting bus slot []) (n : Nat) :
    receiveAll slot n bus = ([], bus) := by
  induction n with
  | zero => rfl
  | succ n ih => simp only [Bus.receiveAll, waiting.receive_empty, ih]

theorem receiveAll_kept (waiting : Waiting bus slot events) (few : events.length ≤ bus.bufferSize)
    {n : Nat} (enough : events.length ≤ n) :
    receiveAll slot n bus = (events, bus.moveTo slot bus.published) := by
  induction events generalizing bus n with
  | nil => rw [waiting.receiveAll_empty, waiting.moveTo_published]
  | cons e rest ih =>
    rw [List.length_cons] at few enough
    obtain ⟨m, rfl⟩ : ∃ m, n = m + 1 := ⟨n - 1, by omega⟩
    have split : Waiting bus slot ([e] ++ rest) := waiting
    have moved := split.moveTo
    have others := ih moved (by show rest.length ≤ bus.bufferSize; omega) (n := m) (by omega)
    simp only [Bus.receiveAll, waiting.receive_event few, others, moveTo_moveTo]
    rfl

/-- A receiver that asks until nothing is left, passing over the notice that events were lost, gets what it
would be drained of. -/
theorem receiveAll (waiting : Waiting bus slot events) {n : Nat} (enough : events.length < n) :
    receiveAll slot n bus = bus.drain slot := by
  rw [waiting.drain]
  by_cases few : events.length ≤ bus.bufferSize
  · rw [waiting.receiveAll_kept few (by omega), newest_eq_self few]
  · have many : bus.bufferSize < events.length := by omega
    obtain ⟨m, rfl⟩ : ∃ m, n = m + 1 := ⟨n - 1, by omega⟩
    have length : (newest bus.bufferSize events).length = bus.bufferSize := by
      rw [length_newest]
      omega
    have split : events.take (events.length - bus.bufferSize) ++ newest bus.bufferSize events = events :=
      List.take_append_drop _ _
    have moved : Waiting (bus.moveTo slot (bus.published - bus.bufferSize)) slot
        (newest bus.bufferSize events) := by
      have later := Waiting.moveTo (split ▸ waiting)
      rwa [length] at later
    have others := moved.receiveAll_kept (n := m) (by rw [length]; exact Nat.le_refl _) (by omega)
    simp only [Bus.receiveAll, waiting.receive_lagged many, others, moveTo_moveTo]
    rfl

end Waiting
end Bus
end Jukebox
