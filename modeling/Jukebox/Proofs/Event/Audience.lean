import Jukebox.Api
import Jukebox.Proofs.Event.Stream
import Jukebox.Proofs.Trace

/-!
# Clients that watch a party

In a `Hall` there are a party and any number of clients, who open, read and close streams whenever they
like.  Between any two of these, requests and ticks take steps, and some of them publish events.

All streams share one bus.  For a client it is as if it had a mailbox of its own (`inbox`), which is known
from the log of what happened: it is empty when the client opens or reads its stream, and gets each event
that is published.  `Watched` says that the bus agrees with these mailboxes; one step keeps it
(`Watched.step`), and so does a run (`Watched.run`).
-/

namespace Jukebox

/-- What happens next. -/
inductive Hall.Happening (κ : Type) where
  /-- A request or a tick takes a step. -/
  | act (a : Party.Action)
  /-- Time goes on, on both clocks. -/
  | pass (clock : Instant) (time : Timestamp)
  /-- A client opens a stream; if it has one, that is closed before. -/
  | opens (client : κ)
  /-- A client reads all that its stream has for it. -/
  | reads (client : κ)
  /-- A client closes its stream. -/
  | closes (client : κ)

/-- What happened. -/
inductive Hall.Entry (κ : Type) where
  /-- A step was taken and answered at a time. -/
  | did (x : Exchange Party.interface) (time : Timestamp)
  | opened (client : κ)
  | sent (client : κ) (frames : List Frame)
  | closed (client : κ)

/-- A party, the streams that clients have open, and what happened so far. -/
structure Hall (σ κ : Type) where
  party : Party σ
  streams : κ → Option Stream
  log : List (Hall.Entry κ)

namespace Hall

variable {σ κ : Type}

/-- The client whose happening it is, if it is a client's. -/
def Happening.client : Happening κ → Option κ
  | .act _ | .pass .. => none
  | .opens c | .reads c | .closes c => some c

/-- The event that a step at some time publishes. -/
def eventOf (a : Party.Action) (time : Timestamp) : Option Event :=
  match a with
  | .publish occurrence => some ⟨occurrence, time⟩
  | _ => none

namespace Entry

/-- The client whose entry it is, if it is a client's. -/
def client : Entry κ → Option κ
  | .did .. => none
  | .opened c | .sent c _ | .closed c => some c

/-- The event that was published in a step. -/
def news : Entry κ → Option Event
  | .did x time => eventOf x.request time
  | _ => none

end Entry

/-- The events that were published. -/
def published (log : List (Entry κ)) : List Event :=
  log.filterMap Entry.news

variable [DecidableEq κ]

/-- The events that a client received. -/
def received (c : κ) (log : List (Entry κ)) : List Event :=
  log.flatMap fun
    | .sent d frames => if d = c then frames.filterMap Frame.event? else []
    | _ => []

/-! ## Steps -/

/-- After something that a client did. -/
def turn (hall : Hall σ κ) (client : κ) (party : Party σ) (stream : Option Stream) (x : Entry κ) :
    Hall σ κ :=
  ⟨party, fun other => if other = client then stream else hall.streams other, hall.log ++ [x]⟩

/-- A client closes its stream, if it has one. -/
def leave (hall : Hall σ κ) (client : κ) : Hall σ κ :=
  match hall.streams client with
  | none => hall
  | some stream => hall.turn client (Api.unwatch stream hall.party) none (.closed client)

/-- A client opens a stream. -/
def enter (hall : Hall σ κ) (client : κ) : Hall σ κ :=
  let (stream, party) := Api.watch hall.party
  hall.turn client party (some stream) (.opened client)

/-- A client reads its stream, if it has one. -/
def look (hall : Hall σ κ) (client : κ) : Hall σ κ :=
  match hall.streams client with
  | none => hall
  | some stream =>
    let (frames, stream, party) := Api.frames stream hall.party
    hall.turn client party (some stream) (.sent client frames)

/-- A request or a tick takes a step. -/
def act (backend : Backend σ) (hall : Hall σ κ) (a : Party.Action) : Hall σ κ :=
  let (answer, party) := Party.serve backend a hall.party
  { hall with party := party, log := hall.log ++ [.did ⟨a, answer⟩ hall.party.time] }

/-- The next thing happens. -/
def step (backend : Backend σ) (hall : Hall σ κ) : Happening κ → Hall σ κ
  | .act a => hall.act backend a
  | .pass clock time => { hall with party := { hall.party with clock := clock, time := time } }
  | .opens c => (hall.leave c).enter c
  | .reads c => hall.look c
  | .closes c => hall.leave c

/-- All of this happens, one thing after the other. -/
def run (backend : Backend σ) (hall : Hall σ κ) (happenings : List (Happening κ)) : Hall σ κ :=
  happenings.foldl (step backend) hall

/-- A party that nobody has watched yet. -/
def around (p : Party σ) : Hall σ κ :=
  ⟨{ p with bus := .new Party.eventCapacity }, fun _ => none, []⟩

/-! ## Mailboxes -/

/-- What becomes of a client's mailbox. -/
def Entry.deliver (c : κ) (x : Entry κ) (inbox : Option (List Event)) : Option (List Event) :=
  match x with
  | .did .. => inbox.map (· ++ x.news.toList)
  | .opened d => if d = c then some [] else inbox
  | .sent d _ => if d = c then inbox.map fun _ => [] else inbox
  | .closed d => if d = c then none else inbox

/-- A client's mailbox, if it has a stream open: what was published since it opened or read it. -/
def inbox (c : κ) (log : List (Entry κ)) : Option (List Event) :=
  log.foldl (fun inbox x => x.deliver c inbox) none

theorem inbox_concat (c : κ) (log : List (Entry κ)) (x : Entry κ) :
    inbox c (log ++ [x]) = x.deliver c (inbox c log) := by
  simp [inbox]

theorem deliver_of_ne {c : κ} {x : Entry κ} {d : κ} (own : x.client = some d) (other : d ≠ c)
    (inbox : Option (List Event)) : x.deliver c inbox = inbox := by
  cases x with
  | did => cases own
  | opened | sent | closed =>
    cases own
    exact if_neg other

theorem deliver_opened (c : κ) (inbox : Option (List Event)) :
    (Entry.opened c).deliver c inbox = some [] :=
  if_pos rfl

theorem deliver_sent (c : κ) (frames : List Frame) (inbox : Option (List Event)) :
    (Entry.sent c frames).deliver c inbox = inbox.map fun _ => [] :=
  if_pos rfl

theorem deliver_closed (c : κ) (inbox : Option (List Event)) :
    (Entry.closed c).deliver c inbox = none :=
  if_pos rfl

/-- The mailbox was emptied into the frames: what of it is kept, or a sign of life. -/
def Delivers (events : List Event) (frames : List Frame) : Prop :=
  frames = (newest Party.eventCapacity events).map .event ∨
    events = [] ∧ frames = [Stream.keepAlive]

/-- Whenever something was sent to a client, its mailbox was emptied. -/
def Faithful (log : List (Entry κ)) : Prop :=
  ∀ before c frames after, log = before ++ .sent c frames :: after →
    ∃ events, inbox c before = some events ∧ Delivers events frames

/-! ## The bus agrees with the mailboxes -/

/-- The stream of a client and its mailbox agree. -/
inductive Held (bus : Bus) : Option Stream → Option (List Event) → Prop
  | away : Held bus none none
  | here {stream : Stream} {events : List Event} (waiting : bus.Waiting stream.slot events) :
      Held bus (some stream) (some events)

/-- The bus agrees with all mailboxes, and what was sent was in them. -/
structure Watched (hall : Hall σ κ) : Prop where
  capacity : hall.party.bus.capacity = Party.eventCapacity
  held : ∀ c, Held hall.party.bus (hall.streams c) (inbox c hall.log)
  apart : ∀ c d s t, hall.streams c = some s → hall.streams d = some t → s.slot = t.slot → c = d
  faithful : Faithful hall.log

theorem Faithful.concat {log : List (Entry κ)} {x : Entry κ} (faithful : Faithful log)
    (last : ∀ c frames, x = .sent c frames →
      ∃ events, inbox c log = some events ∧ Delivers events frames) : Faithful (log ++ [x]) := by
  intro before c frames after split
  rcases concat_eq_append_cons split with ⟨-, same, rfl⟩ | ⟨back, -, rfl⟩
  · exact last c frames same
  · exact faithful before c frames back rfl

theorem bufferSize_eq {bus : Bus} (capacity : bus.capacity = Party.eventCapacity) :
    bus.bufferSize = Party.eventCapacity := by
  rw [Bus.bufferSize, capacity]
  decide +kernel

/-- Whatever waits for a stream is sent to its client. -/
theorem frames_eq {p : Party σ} {stream : Stream} {events : List Event}
    (capacity : p.bus.capacity = Party.eventCapacity) (waiting : p.bus.Waiting stream.slot events) :
    Api.frames stream p =
      let frames := Stream.sending (newest Party.eventCapacity events)
        (Stream.patience ≤ p.clock.since stream.silentSince)
      (frames, ⟨stream.slot, if frames.isEmpty then stream.silentSince else p.clock⟩,
        { p with bus := (p.bus.drain stream.slot).2 }) := by
  simp only [Api.frames, Stream.read_waiting waiting, bufferSize_eq capacity]

theorem delivers_sending (events : List Event) (overdue : Prop) [Decidable overdue] :
    Delivers events (Stream.sending (newest Party.eventCapacity events) overdue) := by
  rcases Stream.sending_cases (newest Party.eventCapacity events) overdue with all | ⟨empty, sign⟩
  · exact Or.inl all
  · exact Or.inr ⟨(newest_eq_nil (by decide)).mp empty, sign⟩

theorem Held.mono {bus bus' : Bus} {stream : Option Stream} {inbox : Option (List Event)}
    (held : Held bus stream inbox)
    (keeps : ∀ t events, stream = some t → bus.Waiting t.slot events → bus'.Waiting t.slot events) :
    Held bus' stream inbox := by
  cases held with
  | away => exact .away
  | here waiting => exact .here (keeps _ _ rfl waiting)

theorem Held.waiting {bus : Bus} {stream : Stream} {inbox : Option (List Event)}
    (held : Held bus (some stream) inbox) :
    ∃ events, inbox = some events ∧ bus.Waiting stream.slot events := by
  cases held with
  | here waiting => exact ⟨_, rfl, waiting⟩

/-- What is published waits for everyone who has a stream open. -/
theorem Held.news {bus : Bus} {stream : Option Stream} {inbox : Option (List Event)}
    (held : Held bus stream inbox) (news : Option Event) :
    Held (news.elim bus bus.publish) stream (inbox.map (· ++ news.toList)) := by
  cases news with
  | none => simpa using held
  | some e =>
    cases held with
    | away => exact .away
    | here waiting => exact .here (waiting.publish e)

theorem capacity_publish (bus : Bus) (e : Event) : (bus.publish e).capacity = bus.capacity := by
  unfold Bus.publish
  split <;> rfl

/-- The events that a step publishes are those that come on the bus. -/
theorem bus_serve (backend : Backend σ) (a : Party.Action) (p : Party σ) :
    (Party.serve backend a p).2.bus = (eventOf a p.time).elim p.bus p.bus.publish := by
  cases a <;> rfl

namespace Watched

variable {hall : Hall σ κ}

theorem slot_ne (watched : Watched hall) {c d : κ} {s t : Stream} (hs : hall.streams c = some s)
    (ht : hall.streams d = some t) (other : d ≠ c) : s.slot ≠ t.slot :=
  fun same => other (watched.apart c d s t hs ht same).symm

/-- What one client does is as it should be if it leaves alone what waits for the others. -/
theorem turn (watched : Watched hall) {c : κ} {party : Party σ} {stream : Option Stream} {x : Entry κ}
    (own : x.client = some c) (capacity : party.bus.capacity = hall.party.bus.capacity)
    (others : ∀ d t events, d ≠ c → hall.streams d = some t →
      hall.party.bus.Waiting t.slot events → party.bus.Waiting t.slot events)
    (mine : Held party.bus stream (x.deliver c (inbox c hall.log)))
    (apart : ∀ s d t, stream = some s → hall.streams d = some t → d ≠ c → s.slot ≠ t.slot)
    (last : ∀ d frames, x = .sent d frames →
      ∃ events, inbox d hall.log = some events ∧ Delivers events frames) :
    Watched (hall.turn c party stream x) where
  capacity := capacity.trans watched.capacity
  held d := by
    by_cases same : d = c
    · subst same
      simpa [Hall.turn, inbox_concat] using mine
    · have stays := deliver_of_ne own (Ne.symm same) (inbox d hall.log)
      simp only [Hall.turn, if_neg same, inbox_concat, stays]
      exact (watched.held d).mono fun t events => others d t events same
  apart d e s t hs ht slot := by
    simp only [Hall.turn] at hs ht
    by_cases first : d = c
    · by_cases second : e = c
      · exact first.trans second.symm
      · rw [if_pos first] at hs
        rw [if_neg second] at ht
        exact absurd slot (apart s e t hs ht second)
    · by_cases second : e = c
      · rw [if_neg first] at hs
        rw [if_pos second] at ht
        exact absurd slot.symm (apart t d s ht hs first)
      · rw [if_neg first] at hs
        rw [if_neg second] at ht
        exact watched.apart d e s t hs ht slot
  faithful := watched.faithful.concat last

theorem leave (watched : Watched hall) (c : κ) : Watched (hall.leave c) := by
  unfold Hall.leave
  split
  · exact watched
  · next stream mine =>
    refine watched.turn rfl rfl ?_ ?_ nofun nofun
    · intro d t events other theirs waiting
      exact waiting.close_other (watched.slot_ne mine theirs other)
    · rw [deliver_closed]
      exact .away

theorem enter (watched : Watched hall) {c : κ} : Watched (hall.enter c) := by
  refine watched.turn rfl rfl ?_ ?_ ?_ nofun
  · intro d t events _ _ waiting
    exact waiting.subscribe
  · rw [deliver_opened]
    exact .here (Bus.Waiting.opened hall.party.bus)
  · intro s d t mine theirs _ same
    obtain ⟨events, -, waiting⟩ := (theirs ▸ watched.held d).waiting
    cases mine
    exact absurd waiting.slot_lt (by rw [← same]; exact Nat.lt_irrefl _)

theorem look (watched : Watched hall) (c : κ) : Watched (hall.look c) := by
  unfold Hall.look
  split
  · exact watched
  · next stream mine =>
    obtain ⟨events, filled, waiting⟩ := (mine ▸ watched.held c).waiting
    rw [frames_eq watched.capacity waiting]
    refine watched.turn rfl ?_ ?_ ?_ ?_ ?_
    · show (hall.party.bus.drain stream.slot).2.capacity = hall.party.bus.capacity
      rw [waiting.drain]
      rfl
    · intro d t others other theirs waits
      exact waits.drain_other (watched.slot_ne mine theirs other)
    · rw [deliver_sent, filled]
      exact .here waiting.drained
    · intro s d t same theirs other
      have apart := watched.slot_ne mine theirs other
      cases same
      exact apart
    · rintro d frames same
      cases same
      exact ⟨events, filled, delivers_sending events _⟩

theorem act (watched : Watched hall) (backend : Backend σ) (a : Party.Action) :
    Watched (hall.act backend a) where
  capacity := by
    show (Party.serve backend a hall.party).2.bus.capacity = Party.eventCapacity
    rw [bus_serve]
    cases eventOf a hall.party.time with
    | none => exact watched.capacity
    | some e => exact (capacity_publish _ e).trans watched.capacity
  held c := by
    show Held (Party.serve backend a hall.party).2.bus (hall.streams c) (inbox c (hall.log ++ [_]))
    rw [bus_serve, inbox_concat]
    exact (watched.held c).news _
  apart := watched.apart
  faithful := watched.faithful.concat nofun

theorem step (watched : Watched hall) (backend : Backend σ) (h : Happening κ) :
    Watched (hall.step backend h) := by
  cases h with
  | act a => exact watched.act backend a
  | pass clock time => exact ⟨watched.capacity, watched.held, watched.apart, watched.faithful⟩
  | opens c => exact (watched.leave c).enter
  | reads c => exact watched.look c
  | closes c => exact watched.leave c

theorem run (watched : Watched hall) (backend : Backend σ) (happenings : List (Happening κ)) :
    Watched (hall.run backend happenings) := by
  induction happenings generalizing hall with
  | nil => exact watched
  | cons h rest ih => exact ih (watched.step backend h)

end Watched

end Hall
end Jukebox
