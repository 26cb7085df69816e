import Jukebox.Proofs.Party.Moves

/-!
# What a tick exchanges

`Moves` says what ticks make of a party at which nothing else happens meanwhile.  Here the steps of guests
may come between those of a tick, and the queues and the service may answer anything.  All that is supposed
is that the scheduler's memory is answered as the tick left it (`Remembers`), as nobody else writes it.

    Polling     a poll and its record
    Judged      what is made of a poll that succeeded, by the state of the scheduler
    Choosing    choosing the next track and entering the state that follows
    Ticking     a whole tick: a poll that fails, one that is judged, or a track that is chosen

Each tick is one of these (`Ticked.ticking`), and what it polled is determined by its exchanges
(`Polls.unique`).
-/

namespace Jukebox.Party

open Scheduler (State Memory Settings)
open Queue (Change)

/-! ## The scheduler's memory -/

/-- The memory `m` is answered as it is, changed as it is asked for, and `m'` at last. -/
def Remembers : Memory → List (Exchange interface) → Memory → Prop
  | m, [], m' => m' = m
  | m, ⟨.readMemory, x⟩ :: t, m' => x = m ∧ Remembers m t m'
  | m, ⟨.updateMemory change, _⟩ :: t, m' => Remembers (change m) t m'
  | m, _ :: t, m' => Remembers m t m'

section
variable {m m' : Memory} {t u : List (Exchange interface)}

@[simp]
theorem remembers_nil : Remembers m [] m' ↔ m' = m := Iff.rfl

theorem remembers_append : Remembers m (t ++ u) m' ↔ ∃ m₁, Remembers m t m₁ ∧ Remembers m₁ u m' := by
  induction t generalizing m with
  | nil =>
    constructor
    · intro h
      exact ⟨m, rfl, h⟩
    · rintro ⟨_, rfl, h⟩
      exact h
  | cons x t ih =>
    obtain ⟨a, x⟩ := x
    cases a with
    | readMemory =>
      constructor
      · rintro ⟨hx, h⟩
        obtain ⟨m₁, h₁, h₂⟩ := ih.1 h
        exact ⟨m₁, ⟨hx, h₁⟩, h₂⟩
      · rintro ⟨m₁, ⟨hx, h₁⟩, h₂⟩
        exact ⟨hx, ih.2 ⟨m₁, h₁, h₂⟩⟩
    | _ => exact ih

@[simp]
theorem remembers_atGateway {u : List (Exchange Gateway.interface)} :
    Remembers m (u.map atGateway) m' ↔ m' = m := by
  induction u with
  | nil => exact Iff.rfl
  | cons x u ih => exact ih

@[simp]
theorem remembers_committed {op : Queue.Store.Operation} {reply : op.Reply} {change : Option Change} :
    Remembers m (committed op reply change) m' ↔ m' = m := by
  cases change <;> exact Iff.rfl

/-- A party remembers what its scheduler does. -/
theorem remembers_served {σ : Type} {backend : Backend σ} {p p' : Party σ}
    (h : Program.Served (serve backend) p t p') : Remembers p.memory t p'.memory := by
  induction h with
  | nil p => rfl
  | @cons a p p' t _ ih =>
    cases a with
    | readMemory => exact ⟨rfl, ih⟩
    | _ => exact ih

end

/-! ## Polls -/

/-- The exchanges of a poll with this result, at this time. -/
inductive Polling : List (Exchange interface) → Except Error (Option Playback) → Timestamp → Prop
  | failed {u : List (Exchange Gateway.interface)} {e : Error} {now : Timestamp} :
      Gateway.Stage .current u (.error e) →
      Polling (u.map atGateway ++ [⟨.readTime, now⟩, ⟨.updateMemory (·.polled (.error e) now), ()⟩])
        (.error e) now
  | reported {u : List (Exchange Gateway.interface)} {playback : Option Playback} {now : Timestamp}
      {change : Option Change} : Gateway.Stage .current u (.ok playback) →
      Polling (u.map atGateway ++ ([⟨.readTime, now⟩, ⟨.updateMemory (·.polled (.ok playback) now), ()⟩] ++
        committed (.setNowPlaying playback) () change)) (.ok playback) now

section
variable {m m' : Memory} {t u : List (Exchange interface)} {r : Except Error State}
  {result : Except Error (Option Playback)} {now : Timestamp}

theorem yields_poll (h : poll.run.Yields t result) : ∃ now, Polling t result now := by
  obtain ⟨t₁, _, result', rfl, hcurrent, hrecord⟩ := Program.yields_bind.1 h
  obtain ⟨t₂, _, now, rfl, htime, hnote⟩ := Program.yields_bind.1 hrecord
  obtain ⟨t₃, t₄, _, rfl, hmemory, hrest⟩ := Program.yields_bind.1 hnote
  obtain ⟨u, hu, rfl⟩ := yields_gateway hcurrent
  obtain rfl := Program.yields_request.1 htime
  obtain rfl := Program.yields_request.1 hmemory
  refine ⟨now, ?_⟩
  cases result' with
  | ok playback =>
    obtain ⟨t₅, _, _, rfl, hstore, hdone⟩ := Program.yields_bind.1 hrest
    obtain ⟨change, rfl⟩ := yields_commit hstore
    obtain ⟨rfl, rfl⟩ := Program.yields_pure.1 hdone
    rw [List.append_nil]
    exact .reported (Gateway.yields_stage hu)
  | error e =>
    obtain ⟨rfl, rfl⟩ := Program.yields_pure.1 hrest
    exact .failed (Gateway.yields_stage hu)

theorem Polling.remembers (h : Polling t result now) (hm : Remembers m t m') :
    m' = m.polled result now := by
  cases h with
  | failed =>
    obtain ⟨m₁, hcurrent, hrecord⟩ := remembers_append.1 hm
    obtain rfl := remembers_atGateway.1 hcurrent
    exact hrecord
  | reported =>
    obtain ⟨m₁, hcurrent, hrest⟩ := remembers_append.1 hm
    obtain rfl := remembers_atGateway.1 hcurrent
    obtain ⟨m₂, hrecord, hstore⟩ := remembers_append.1 hrest
    obtain rfl := remembers_committed.1 hstore
    exact hrecord

/-- The result of the poll with which a tick begins. -/
def Polls (t : List (Exchange interface)) (result : Except Error (Option Playback)) : Prop :=
  ∃ m u rest, Gateway.Stage .current u result ∧ t = ⟨.readMemory, m⟩ :: (u.map atGateway ++ rest)

theorem Polling.polls (h : Polling t result now) (m : Memory) (rest : List (Exchange interface)) :
    Polls (⟨.readMemory, m⟩ :: (t ++ rest)) result := by
  cases h with
  | failed hcurrent => exact ⟨m, _, _, hcurrent, by rw [List.append_assoc]⟩
  | reported hcurrent => exact ⟨m, _, _, hcurrent, by rw [List.append_assoc]⟩

theorem Polling.polls_self (h : Polling t result now) (m : Memory) : Polls (⟨.readMemory, m⟩ :: t) result := by
  simpa using h.polls m []

/-- A tick polls once before anything else. -/
theorem Polls.unique {result' : Except Error (Option Playback)} (h : Polls t result)
    (h' : Polls t result') : result = result' := by
  obtain ⟨m, u, rest, hcurrent, rfl⟩ := h
  obtain ⟨m', u', rest', hcurrent', heq⟩ := h'
  have hyields : (gateway Gateway.current).run.Yields (u.map atGateway) result :=
    gateway_yields hcurrent.yields
  have hyields' : (gateway Gateway.current).run.Yields (u'.map atGateway) result' :=
    gateway_yields hcurrent'.yields
  exact (hyields.unique hyields' (List.cons.inj heq).2).2

/-! ## What is made of a poll -/

/-- The requested track is not reported, or not as one that runs or has run. -/
def Unconfirmed (m : Memory) (playback : Option Playback) : Prop :=
  ∀ track p, m.requested = some track → playback = some p → Scheduler.isConfirmed track p = false

/-- The exchanges after a successful poll, the state that follows, and what is remembered then. -/
inductive Judged (settings : Settings) (m : Memory) :
    Option Playback → List (Exchange interface) → State → Memory → Prop
  /-- Something else plays. -/
  | busy {playback : Option Playback} (hstate : m.state = .idle)
      (hbusy : playback.any (·.isPlaying) = true) : Judged settings m playback [] .idle m
  /-- The player is free, and no track waits. -/
  | unqueued {playback : Option Playback} {s : Queue.Store} (hstate : m.state = .idle)
      (hfree : playback.any (·.isPlaying) = false) (hs : s.isEmpty = true) :
      Judged settings m playback [⟨.readStore, s⟩] .idle m
  /-- The player is free, and a track waits. -/
  | queued {playback : Option Playback} {s : Queue.Store} (hstate : m.state = .idle)
      (hfree : playback.any (·.isPlaying) = false) (hs : s.isEmpty = false) :
      Judged settings m playback [⟨.readStore, s⟩] .playNextSong m
  /-- The started track is reported. -/
  | confirmed {track : Track} {p : Playback} (hstate : m.state = .checkPlaying)
      (hrequested : m.requested = some track) (hconfirmed : Scheduler.isConfirmed track p = true) :
      Judged settings m (some p)
        [⟨.readMemory, m⟩, ⟨.updateMemory ({ · with attempts := 0, lastProgress := p.progress }), ()⟩]
        .playing { m with attempts := 0, lastProgress := p.progress }
  /-- The started track is not reported yet. -/
  | missing {playback : Option Playback} (hstate : m.state = .checkPlaying)
      (hmissing : Unconfirmed m playback) (hattempts : ¬ settings.checkAttempts ≤ m.attempts + 1) :
      Judged settings m playback
        [⟨.readMemory, m⟩, ⟨.updateMemory ({ · with attempts := m.attempts + 1 }), ()⟩]
        .checkPlaying { m with attempts := m.attempts + 1 }
  /-- The started track was not reported for too long. -/
  | lost {playback : Option Playback} (hstate : m.state = .checkPlaying)
      (hmissing : Unconfirmed m playback) (hattempts : settings.checkAttempts ≤ m.attempts + 1) :
      Judged settings m playback
        [⟨.readMemory, m⟩, ⟨.updateMemory ({ · with attempts := 0, requested := none }), ()⟩]
        .idle { m with attempts := 0, requested := none }
  /-- The track goes on. -/
  | running {track : Track} {p : Playback} (hstate : m.state = .playing)
      (hrequested : m.requested = some track) (hid : p.id = track.id)
      (hrunning : Scheduler.isFinished (some track) (some p) m.lastProgress
        settings.endOfTrackThreshold = false) :
      Judged settings m (some p)
        [⟨.readMemory, m⟩, ⟨.updateMemory ({ · with lastProgress := p.progress }), ()⟩]
        .playing { m with lastProgress := p.progress }
  /-- The track has stopped at its end. -/
  | ended {track : Track} {p : Playback} (hstate : m.state = .playing)
      (hrequested : m.requested = some track) (hid : p.id = track.id)
      (hended : Scheduler.isFinished (some track) (some p) m.lastProgress
        settings.endOfTrackThreshold = true) :
      Judged settings m (some p)
        [⟨.readMemory, m⟩, ⟨.updateMemory ({ · with lastProgress := p.progress }), ()⟩]
        .playNextSong { m with lastProgress := p.progress }
  /-- The track is not reported any more. -/
  | gone {playback : Option Playback} (hstate : m.state = .playing)
      (hgone : ∀ track p, m.requested = some track → playback = some p → p.id ≠ track.id) :
      Judged settings m playback [⟨.readMemory, m⟩] .playNextSong m

/-- What a look at the playback exchanges and leads to. -/
inductive Observing (settings : Settings) (m : Memory) :
    List (Exchange interface) → Except Error State → Memory → Prop
  | failed {t : List (Exchange interface)} {e : Error} {now : Timestamp} : Polling t (.error e) now →
      Observing settings m t (.error e) (m.polled (.error e) now)
  | judged {t v : List (Exchange interface)} {playback : Option Playback} {now : Timestamp}
      {next : State} {m' : Memory} : Polling t (.ok playback) now →
      Judged settings (m.polled (.ok playback) now) playback v next m' →
      Observing settings m (t ++ v) (.ok next) m'

variable {settings : Settings}

/-- A look is a poll, and what is made of it if it succeeds. -/
theorem observing_of_poll {rest : Option Playback → Task State}
    (h : (poll >>= rest).run.Yields t r) (hm : Remembers m t m')
    (hrest : ∀ {playback now v}, (rest playback).run.Yields v r →
      Remembers (m.polled (.ok playback) now) v m' →
      ∃ next, r = .ok next ∧ Judged settings (m.polled (.ok playback) now) playback v next m') :
    Observing settings m t r m' := by
  rcases Program.yields_bind_run.1 h with ⟨t₁, v, playback, rfl, hpoll, hv⟩ | ⟨e, he, rfl⟩
  · obtain ⟨now, hpolling⟩ := yields_poll hpoll
    obtain ⟨m₁, hm₁, hm₂⟩ := remembers_append.1 hm
    obtain rfl := hpolling.remembers hm₁
    obtain ⟨next, rfl, hjudged⟩ := hrest hv hm₂
    exact .judged hpolling hjudged
  · obtain ⟨now, hpolling⟩ := yields_poll he
    obtain rfl := hpolling.remembers hm
    exact .failed hpolling

theorem yields_whenIdle (h : whenIdle.run.Yields t r) (hm : Remembers m t m')
    (hstate : m.state = .idle) : Observing settings m t r m' := by
  refine observing_of_poll h hm fun {playback now v} hv hm => ?_
  split at hv
  · next hbusy =>
    obtain ⟨rfl, rfl⟩ := Program.yields_pure.1 hv
    obtain rfl := remembers_nil.1 hm
    exact ⟨_, rfl, .busy hstate hbusy⟩
  · next hfree =>
    obtain ⟨t₁, _, s, rfl, hread, hdone⟩ := Program.yields_bind_lift.1 hv
    obtain rfl := Program.yields_request.1 hread
    obtain ⟨rfl, rfl⟩ := Program.yields_pure.1 hdone
    obtain rfl := remembers_nil.1 hm
    refine ⟨_, rfl, ?_⟩
    split
    · next hs => exact .unqueued hstate (Bool.eq_false_iff.2 hfree) hs
    · next hs => exact .queued hstate (Bool.eq_false_iff.2 hfree) (Bool.eq_false_iff.2 hs)

theorem yields_missing {playback : Option Playback}
    (h : (whenCheckPlaying.missing settings.checkAttempts m).run.Yields u r)
    (hm : Remembers m u m') (hstate : m.state = .checkPlaying) (hmissing : Unconfirmed m playback) :
    ∃ next, r = .ok next ∧ Judged settings m playback (⟨.readMemory, m⟩ :: u) next m' := by
  unfold whenCheckPlaying.missing at h
  dsimp only at h
  split at h
  all_goals
    obtain ⟨t₁, _, _, rfl, hmemory, hdone⟩ := Program.yields_bind_lift.1 h
    obtain rfl := Program.yields_request.1 hmemory
    obtain ⟨rfl, rfl⟩ := Program.yields_pure.1 hdone
    obtain rfl := remembers_nil.1 hm
  · exact ⟨_, rfl, .lost hstate hmissing (by assumption)⟩
  · exact ⟨_, rfl, .missing hstate hmissing (by assumption)⟩

theorem yields_whenCheckPlaying (h : (whenCheckPlaying settings.checkAttempts).run.Yields t r)
    (hm : Remembers m t m') (hstate : m.state = .checkPlaying) : Observing settings m t r m' := by
  refine observing_of_poll h hm fun {playback now v} hv hm => ?_
  obtain ⟨t₁, v, memory, rfl, hread, hjudge⟩ := Program.yields_bind_lift.1 hv
  obtain rfl := Program.yields_request.1 hread
  obtain ⟨rfl, hm⟩ := hm
  split at hjudge
  · next track p hrequested =>
    split at hjudge
    · next hconfirmed =>
      obtain ⟨t₂, _, _, rfl, hmemory, hdone⟩ := Program.yields_bind_lift.1 hjudge
      obtain rfl := Program.yields_request.1 hmemory
      obtain ⟨rfl, rfl⟩ := Program.yields_pure.1 hdone
      obtain rfl := remembers_nil.1 hm
      exact ⟨_, rfl, .confirmed hstate hrequested hconfirmed⟩
    · next hnot =>
      refine yields_missing hjudge hm hstate fun track' p' hrequested' hp => ?_
      cases hrequested.symm.trans hrequested'
      cases hp
      exact Bool.eq_false_iff.2 hnot
  · next hnone =>
    exact yields_missing hjudge hm hstate fun track p hrequested hp => (hnone track p hrequested hp).elim

/-- The verdict on a track depends on what was remembered before. -/
theorem yields_verdict {finished : Bool}
    (h : (if finished = true then pure .playNextSong else pure .playing : Task State).run.Yields t r) :
    t = [] ∧ r = .ok (if finished = true then .playNextSong else .playing) := by
  split at h
  all_goals
    obtain ⟨rfl, rfl⟩ := Program.yields_pure.1 h
  · next hf => exact ⟨rfl, by rw [if_pos hf]⟩
  · next hf => exact ⟨rfl, by rw [if_neg hf]⟩

theorem yields_whenPlaying (h : (whenPlaying settings.endOfTrackThreshold).run.Yields t r)
    (hm : Remembers m t m') (hstate : m.state = .playing) : Observing settings m t r m' := by
  refine observing_of_poll h hm fun {playback now v} hv hm => ?_
  obtain ⟨t₁, v, memory, rfl, hread, hjudge⟩ := Program.yields_bind_lift.1 hv
  obtain rfl := Program.yields_request.1 hread
  obtain ⟨rfl, hm⟩ := hm
  dsimp only at hjudge
  split at hjudge
  · next track p hrequested =>
    split at hjudge
    · next hid =>
      obtain ⟨t₂, _, _, rfl, hmemory, hdone⟩ := Program.yields_bind_lift.1 hjudge
      obtain rfl := Program.yields_request.1 hmemory
      obtain ⟨rfl, rfl⟩ := yields_verdict hdone
      obtain rfl := remembers_nil.1 hm
      refine ⟨_, rfl, ?_⟩
      rw [hrequested]
      split
      · next hended => exact .ended hstate hrequested hid hended
      · next hrunning => exact .running hstate hrequested hid (Bool.eq_false_iff.2 hrunning)
    · next hid =>
      obtain ⟨rfl, rfl⟩ := yields_verdict hjudge
      obtain rfl := remembers_nil.1 hm
      refine ⟨_, rfl, ?_⟩
      rw [hrequested, if_pos (Scheduler.isFinished_iff.2 (Or.inl hid))]
      refine .gone hstate fun track' p' hrequested' hp => ?_
      cases hrequested.symm.trans hrequested'
      cases hp
      exact hid
  · next hnone =>
    obtain ⟨rfl, rfl⟩ := yields_verdict hjudge
    obtain rfl := remembers_nil.1 hm
    refine ⟨_, rfl, ?_⟩
    split
    · exact .gone hstate fun track p hrequested hp => (hnone track p hrequested hp).elim
    · next hrunning =>
      obtain ⟨track, p, hrequested, hp, -⟩ := isFinished_eq_false (Bool.eq_false_iff.2 hrunning)
      exact (hnone track p hrequested hp).elim

/-! ## Choosing a track -/

/-- What is remembered when the next track was chosen. -/
def choosing (m : Memory) : Except Error (Option Track) → Memory
  | .ok (some track) => m.requesting track
  | _ => m

theorem Selecting.remembers {preferred : Option String} {r : Except Error (Option Track)}
    (h : Selecting preferred t r) (hm : Remembers m t m') : m' = choosing m r := by
  cases h with
  | nothing => exact remembers_committed.1 hm
  | handed =>
    obtain ⟨m₁, hpop, hrest⟩ := remembers_append.1 hm
    obtain rfl := remembers_committed.1 hpop
    obtain ⟨m₂, hplay, hrequesting⟩ := remembers_append.1 hrest
    obtain rfl := remembers_atGateway.1 hplay
    exact hrequesting
  | putBack =>
    obtain ⟨m₁, hpop, hrest⟩ := remembers_append.1 hm
    obtain rfl := remembers_committed.1 hpop
    obtain ⟨m₂, hplay, hback⟩ := remembers_append.1 hrest
    obtain rfl := remembers_atGateway.1 hplay
    exact remembers_committed.1 hback
  | givenUp =>
    obtain ⟨m₁, hpop, hplay⟩ := remembers_append.1 hm
    obtain rfl := remembers_committed.1 hpop
    exact remembers_atGateway.1 hplay

/-- The exchanges of entering a state. -/
def entering (m : Memory) (next : State) : List (Exchange interface) :=
  ⟨.readMemory, m⟩ :: ⟨.updateMemory ({ · with state := next }), ()⟩ ::
    if m.state = next then [] else [⟨.publish (.schedulerStateChanged m.state next), ()⟩]

theorem yields_tell {old next : State} {a : Unit}
    (h : (if old ≠ next then tell (.schedulerStateChanged old next) else pure ()).Yields t a) :
    t = if old = next then [] else [⟨.publish (.schedulerStateChanged old next), ()⟩] := by
  split at h
  · next hne =>
    rw [if_neg hne]
    exact Program.yields_request.1 h
  · next heq =>
    rw [if_pos (Classical.not_not.1 heq)]
    exact (Program.yields_pure.1 h).1

theorem yields_enter {next : State} {a : Unit} (h : (enter next).Yields t a) (hm : Remembers m t m') :
    t = entering m next ∧ m' = { m with state := next } := by
  obtain ⟨t₁, _, memory, rfl, hread, hrest⟩ := Program.yields_bind.1 h
  obtain ⟨t₂, t₃, _, rfl, hmemory, htell⟩ := Program.yields_bind.1 hrest
  obtain rfl := Program.yields_request.1 hread
  obtain rfl := Program.yields_request.1 hmemory
  obtain ⟨rfl, hm⟩ := hm
  obtain rfl := yields_tell htell
  refine ⟨rfl, ?_⟩
  -- what is told makes no difference to the memory
  change Remembers _ (if _ then [] else _) _ at hm
  split at hm <;> exact hm

/-- The exchanges of choosing the next track and entering the state that follows. -/
inductive Choosing (preferred : Option String) (m : Memory) :
    List (Exchange interface) → Except Error (Option Track) → Memory → Prop
  | intro {t : List (Exchange interface)} {r : Except Error (Option Track)} : Selecting preferred t r →
      Choosing preferred m (t ++ entering (choosing m r) (following r)) r
        { choosing m r with state := following r }

theorem yields_whenPlayNextSong {preferred : Option String} {next : State}
    (h : (whenPlayNextSong preferred).Yields t next) :
    ∃ r, next = following r ∧ Selecting preferred t r := by
  obtain ⟨t₁, t₂, r, rfl, hnext, hrest⟩ := Program.yields_bind.1 h
  have hfollow : (pure (following r) : Program interface State).Yields t₂ next := by
    match r, hrest with
    | .ok (some _), hrest => exact hrest
    | .ok none, hrest => exact hrest
    | .error _, hrest => exact hrest
  obtain ⟨rfl, rfl⟩ := Program.yields_pure.1 hfollow
  rw [List.append_nil]
  exact ⟨r, rfl, yields_nextTrack hnext⟩

/-- A track is chosen and the state that follows is entered, whatever comes then. -/
theorem yields_chosen {preferred : Option String} {rest : State → Task State}
    (h : (do
      let next ← whenPlayNextSong preferred
      enter next
      rest next : Task State).run.Yields t r) (hm : Remembers m t m') :
    ∃ u v result m₁, t = u ++ v ∧ Choosing preferred m u result m₁ ∧
      (rest (following result)).run.Yields v r ∧ Remembers m₁ v m' := by
  obtain ⟨t₁, _, next, rfl, hnext, hrest⟩ := Program.yields_bind_lift.1 h
  obtain ⟨t₂, v, _, rfl, henter, hend⟩ := Program.yields_bind_lift.1 hrest
  obtain ⟨result, rfl, hselecting⟩ := yields_whenPlayNextSong hnext
  obtain ⟨m₁, hm₁, hm⟩ := remembers_append.1 hm
  obtain ⟨m₂, hm₂, hm⟩ := remembers_append.1 hm
  obtain rfl := hselecting.remembers hm₁
  obtain ⟨rfl, rfl⟩ := yields_enter henter hm₂
  exact ⟨_, v, result, _, (List.append_assoc ..).symm, .intro hselecting, hend, hm⟩

/-! ## Ticks -/

/-- A tick that finds the memory `m`, exchanges `t`, ends with `r` and leaves the memory `m'`. -/
structure Ticked (settings : Settings) (preferred : Option String) (m : Memory)
    (t : List (Exchange interface)) (r : Except Error State) (m' : Memory) : Prop where
  yields : (tick settings preferred).run.Yields t r
  remembers : Remembers m t m'

/-- A tick that nothing else comes between. -/
theorem ticked_of_ends {σ : Type} {backend : Backend σ} {p p' : Party σ} {settings : Settings}
    {preferred : Option String} (h : (tick settings preferred).run.Ends (serve backend) p t r p') :
    Ticked settings preferred p.memory t r p'.memory :=
  ⟨h.yields, remembers_served h.served⟩

/-- What ticks are made of. -/
inductive Ticking (settings : Settings) (preferred : Option String) (m : Memory) :
    List (Exchange interface) → Except Error State → Memory → Prop
  /-- The poll fails, and the state stays. -/
  | failed {t : List (Exchange interface)} {e : Error} {now : Timestamp}
      (hstate : m.state ≠ .playNextSong) (hpolling : Polling t (.error e) now) :
      Ticking settings preferred m (⟨.readMemory, m⟩ :: t) (.error e) (m.polled (.error e) now)
  /-- The poll is judged, and no track is to be chosen. -/
  | looked {t v : List (Exchange interface)} {playback : Option Playback} {now : Timestamp}
      {next : State} {m₁ : Memory} (hpolling : Polling t (.ok playback) now)
      (hjudged : Judged settings (m.polled (.ok playback) now) playback v next m₁)
      (hnext : next ≠ .playNextSong) :
      Ticking settings preferred m (⟨.readMemory, m⟩ :: (t ++ (v ++ entering m₁ next))) (.ok next)
        { m₁ with state := next }
  /-- The poll is judged, and a track is chosen. -/
  | chosen {t v u : List (Exchange interface)} {playback : Option Playback} {now : Timestamp}
      {m₁ m' : Memory} {result : Except Error (Option Track)} (hpolling : Polling t (.ok playback) now)
      (hjudged : Judged settings (m.polled (.ok playback) now) playback v .playNextSong m₁)
      (hchoosing : Choosing preferred { m₁ with state := .playNextSong } u result m') :
      Ticking settings preferred m
        (⟨.readMemory, m⟩ :: (t ++ (v ++ (entering m₁ .playNextSong ++ u)))) (.ok (following result)) m'
  /-- A track was to be chosen already. -/
  | tried {t : List (Exchange interface)} {m' : Memory} {result : Except Error (Option Track)}
      (hstate : m.state = .playNextSong) (hchoosing : Choosing preferred m t result m') :
      Ticking settings preferred m (⟨.readMemory, m⟩ :: t) (.ok (following result)) m'

variable {preferred : Option String}

/-- What a look at the playback and what follows from it come to. -/
theorem yields_look {look : Task State} (h : (look >>= proceed preferred m.state).run.Yields t r)
    (hm : Remembers m t m') (hstate : m.state ≠ .playNextSong)
    (hlook : ∀ {t r m'}, look.run.Yields t r → Remembers m t m' → Observing settings m t r m') :
    Ticking settings preferred m (⟨.readMemory, m⟩ :: t) r m' := by
  rcases Program.yields_bind_run.1 h with ⟨t₁, t₂, next, rfl, hnext, hrest⟩ | ⟨e, he, rfl⟩
  · obtain ⟨t₃, t₄, _, rfl, henter, hend⟩ := Program.yields_bind_lift.1 hrest
    obtain ⟨m₁, hm₁, hm₂⟩ := remembers_append.1 hm
    obtain ⟨m₂, hm₃, hm₄⟩ := remembers_append.1 hm₂
    obtain ⟨rfl, rfl⟩ := yields_enter henter hm₃
    cases hlook hnext hm₁ with
    | judged hpolling hjudged =>
      rw [List.append_assoc]
      split at hend
      · next hchoose =>
        obtain ⟨rfl, -⟩ := hchoose
        obtain ⟨u, v, result, m₃, rfl, hchoosing, hdone, hm₅⟩ := yields_chosen hend hm₄
        obtain ⟨rfl, rfl⟩ := Program.yields_pure.1 hdone
        obtain rfl := remembers_nil.1 hm₅
        rw [List.append_nil]
        exact .chosen hpolling hjudged hchoosing
      · next hnot =>
        obtain ⟨rfl, rfl⟩ := Program.yields_pure.1 hend
        obtain rfl := remembers_nil.1 hm₄
        rw [List.append_nil]
        exact .looked hpolling hjudged fun hnext => hnot ⟨hnext, hstate⟩
  · cases hlook he hm with
    | failed hpolling => exact .failed hstate hpolling

/-- A tick reads the memory and goes on as its state demands. -/
theorem Ticked.ticking (h : Ticked settings preferred m t r m') :
    Ticking settings preferred m t r m' := by
  obtain ⟨t₁, t₂, memory, rfl, hread, hrest⟩ := Program.yields_bind_lift.1 h.yields
  obtain rfl := Program.yields_request.1 hread
  obtain ⟨rfl, hm⟩ := h.remembers
  dsimp only at hrest
  split at hrest
  · next hstate =>
    exact yields_look hrest hm (by rw [hstate]; exact nofun) fun h hm => yields_whenIdle h hm hstate
  · next hstate =>
    obtain ⟨u, v, result, m₁, rfl, hchoosing, hdone, hm⟩ := yields_chosen hrest hm
    -- The state was `playNextSong` already, so no second track is chosen in this tick.
    rw [if_neg fun hn => hn.2 hstate] at hdone
    obtain ⟨rfl, rfl⟩ := Program.yields_pure.1 hdone
    obtain rfl := remembers_nil.1 hm
    rw [List.append_nil]
    exact .tried hstate hchoosing
  · next hstate =>
    exact yields_look hrest hm (by rw [hstate]; exact nofun) fun h hm => yields_whenCheckPlaying h hm hstate
  · next hstate =>
    exact yields_look hrest hm (by rw [hstate]; exact nofun) fun h hm => yields_whenPlaying h hm hstate

/-! ### What was polled -/

theorem Judged.lastPlayback_eq {v : List (Exchange interface)} {playback : Option Playback} {next : State}
    (h : Judged settings m playback v next m') : m'.lastPlayback = m.lastPlayback := by
  cases h <;> rfl

theorem Choosing.lastPlayback_eq {r : Except Error (Option Track)} (h : Choosing preferred m t r m') :
    m'.lastPlayback = m.lastPlayback := by
  cases h with
  | @intro t r hselecting =>
    unfold choosing
    split <;> rfl

/-- A tick that polls remembers what it polled, or that it failed. -/
theorem Ticking.polls (h : Ticking settings preferred m t r m') (hstate : m.state ≠ .playNextSong)
    (hok : m'.lastError = none) : Polls t (.ok m'.lastPlayback) := by
  cases h with
  | failed => cases hok
  | @looked t v playback now next m₁ hpolling hjudged =>
    have hlast : m₁.lastPlayback = playback := hjudged.lastPlayback_eq
    subst hlast
    exact hpolling.polls _ _
  | @chosen t v u playback now m₁ m' result hpolling hjudged hchoosing =>
    have hlast : m'.lastPlayback = playback := hchoosing.lastPlayback_eq.trans hjudged.lastPlayback_eq
    rw [hlast]
    exact hpolling.polls _ _
  | tried hs => exact absurd hs hstate

end
end Jukebox.Party
