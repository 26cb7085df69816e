import Jukebox.Proofs.Gateway.Operations
import Jukebox.Proofs.Party.Protocol
import Jukebox.Proofs.Party.Ticks

/-!
# One tick, one step

To start a track takes three `Act`s: an entry is popped, its track is handed to the playback service, and
observers are told of the start.  A tick does a beginning of these three, and none at all unless its own poll
calls for it (`Ticking.urged`).  A tick that fails has written nothing but the record of its poll
(`Ticking.of_error`), and after every tick the store shows what was polled last (`Ticking.shown_eq`).  `OneStep`
says all of this of the exchanges, whoever answers them.

The main statement is about the ticks at any party (`one_tick_one_step`).
-/

namespace Jukebox.Party

open Scheduler (State Memory Settings)
open Queue (Change)

/-! ## What starts a track -/

/-- What is done to start a track. -/
inductive Act where
  /-- The best entry is taken off. -/
  | pop
  /-- A track is handed to the playback service, with the transport held for it. -/
  | play
  /-- Observers are told that a track started. -/
  | start
deriving DecidableEq

/-- The act that an exchange is. -/
def actIn : Exchange interface → Option Act
  | ⟨.store .pop, _⟩ => some .pop
  | ⟨.gateway (.acquire .transport), _⟩ => some .play
  | ⟨.publish (.trackStarted ..), _⟩ => some .start
  | _ => none

/-- What was done to start tracks, in order. -/
def acts (t : List (Exchange interface)) : List Act :=
  t.filterMap actIn

@[simp]
theorem acts_cons (x : Exchange interface) (t : List (Exchange interface)) :
    acts (x :: t) = (actIn x).toList ++ acts t := by
  unfold acts
  cases hx : actIn x with
  | none => rw [List.filterMap_cons_none hx, Option.toList_none, List.nil_append]
  | some act => rw [List.filterMap_cons_some hx, Option.toList_some, List.singleton_append]

@[simp]
theorem acts_append (t u : List (Exchange interface)) : acts (t ++ u) = acts t ++ acts u :=
  List.filterMap_append

@[simp]
theorem acts_announced (change : Option Change) : acts (announced change) = [] := by
  cases change <;> rfl

/-- Calls by themselves start no track. -/
theorem acts_calls {u : List (Exchange Gateway.interface)} (h : ∀ x ∈ u, ∃ c, x.request = .call c) :
    acts (u.map atGateway) = [] := by
  unfold acts
  rw [List.filterMap_map, List.filterMap_eq_nil_iff]
  intro x hx
  obtain ⟨c, hc⟩ := h x hx
  obtain ⟨a, x⟩ := x
  obtain rfl : a = .call c := hc
  rfl

theorem acts_stage {c : Call} {u : List (Exchange Gateway.interface)} {r : Except Error c.Result}
    (h : Gateway.Stage c u r) : acts (u.map atGateway) = [] := by
  refine acts_calls fun x hx => ?_
  rcases h.request_eq x hx with hr | hr <;> exact ⟨_, hr⟩

/-- A track is handed over as a whole, while the transport is held. -/
theorem acts_play {preferred : Option String} {track : Track} {u : List (Exchange Gateway.interface)}
    {r : Except Error Unit} (h : (Gateway.play preferred track).run.Yields u r) :
    acts (u.map atGateway) = [.play] := by
  have htask : ((Gateway.Operation.play track).task preferred).run.Yields u r := h
  rcases Gateway.yields_task htask with ⟨lock, v, hlock, rfl, hv⟩ | ⟨hnone, -⟩
  · cases hlock
    have hcalls : acts (v.map atGateway) = [] := by
      refine acts_calls fun x hx => ?_
      obtain ⟨c, hc, -⟩ := hv x hx
      exact ⟨c, hc⟩
    rw [List.map_cons, List.map_append, acts_cons, acts_append, hcalls]
    rfl
  · obtain ⟨v, -, rfl⟩ := Gateway.yields_play h
    rcases hnone with hnone | hnone <;> cases hnone

section
variable {settings : Settings} {preferred : Option String} {m m' : Memory}
  {t v : List (Exchange interface)} {r : Except Error State} {result : Except Error (Option Playback)}
  {playback : Option Playback} {now : Timestamp} {next : State}

theorem Polling.acts_eq_nil (h : Polling t result now) : acts t = [] := by
  cases h with
  | failed hcurrent =>
    rw [acts_append, acts_stage hcurrent]
    rfl
  | reported hcurrent =>
    rw [acts_append, acts_stage hcurrent, List.nil_append, acts_append]
    exact acts_announced _

theorem Judged.acts_eq_nil (h : Judged settings m playback v next m') : acts v = [] := by
  cases h <;> rfl

theorem acts_entering (m : Memory) (next : State) : acts (entering m next) = [] := by
  unfold entering
  split <;> rfl

/-- What is done to start a track by the time that choosing the next one ends so. -/
def actsUntil : Except Error (Option Track) → List Act
  | .ok none => [.pop]
  | .error _ => [.pop, .play]
  | .ok (some _) => [.pop, .play, .start]

theorem actsUntil_beginning (r : Except Error (Option Track)) : actsUntil r <+: [.pop, .play, .start] := by
  unfold actsUntil
  split <;> decide

theorem Selecting.acts_eq {r : Except Error (Option Track)} (h : Selecting preferred t r) :
    acts t = actsUntil r := by
  have hpopping : ∀ popped change, acts (popping popped change) = [.pop] := fun popped change => by
    unfold popping committed
    rw [acts_cons, acts_announced]
    rfl
  cases h with
  | nothing => exact hpopping _ _
  | handed hplay =>
    rw [acts_append, acts_append, hpopping, acts_play hplay]
    rfl
  | putBack hplay =>
    rw [acts_append, acts_append, hpopping, acts_play hplay]
    unfold committed
    rw [acts_cons, acts_announced]
    rfl
  | givenUp hplay =>
    rw [acts_append, hpopping, acts_play hplay]
    rfl

theorem Choosing.acts_eq {r : Except Error (Option Track)} (h : Choosing preferred m t r m') :
    acts t = actsUntil r := by
  cases h with
  | intro hselecting =>
    rw [acts_append, acts_entering, List.append_nil]
    exact hselecting.acts_eq

/-! ## What a tick does of it -/

/-- The poll does not show the track, or shows that it stopped near its start after it `cameFurther`. -/
def ShowsOver (settings : Settings) (track : Track) (cameFurther : Prop) (playback : Option Playback) : Prop :=
  ∀ p, playback = some p → p.id ≠ track.id ∨
    p.isPlaying = false ∧ p.progress < settings.endOfTrackThreshold ∧ cameFurther

/-- What calls for a track to be started, if the scheduler is not about to start one anyway: a track waits
for a player that is free, or the track that plays is over. -/
inductive Urged (settings : Settings) (m : Memory) (t : List (Exchange interface)) : Prop
  | queued {playback : Option Playback} {s : Queue.Store} (hstate : m.state = .idle)
      (hpolls : Polls t (.ok playback)) (hfree : playback.any (·.isPlaying) = false)
      (hread : ⟨.readStore, s⟩ ∈ t) (hs : s.isEmpty = false)
  | ended {playback : Option Playback} (hstate : m.state = .playing) (hpolls : Polls t (.ok playback))
      (hover : ∀ track, m.requested = some track → ShowsOver settings track
        (settings.endOfTrackThreshold < m.lastProgress) playback)

theorem Judged.urged (h : Judged settings (m.polled (.ok playback) now) playback v .playNextSong m')
    (hpolls : Polls t (.ok playback)) (hv : ∀ x ∈ v, x ∈ t) : Urged settings m t := by
  cases h with
  | queued hstate hfree hs => exact .queued hstate hpolls hfree (hv _ List.mem_cons_self) hs
  | ended hstate hrequested hid hended =>
    refine .ended hstate hpolls fun track htrack p hp => ?_
    cases hrequested.symm.trans htrack
    cases hp
    exact Scheduler.isFinished_iff.1 hended
  | gone hstate hgone =>
    exact .ended hstate hpolls fun track htrack p hp => Or.inl (hgone track p htrack hp)

/-- Looking at the playback starts no track. -/
theorem acts_observing {u : List (Exchange interface)} {m₁ m₂ : Memory} (hpolling : Polling t result now)
    (hjudged : Judged settings m₁ playback v next m₂) :
    acts (⟨.readMemory, m⟩ :: (t ++ (v ++ u))) = acts u := by
  rw [acts_cons, acts_append, acts_append, hpolling.acts_eq_nil, hjudged.acts_eq_nil]
  rfl

/-- A tick does a beginning of what starts a track, and nothing unless something calls for it. -/
theorem Ticking.acts_cases (h : Ticking settings preferred m t r m') :
    acts t = [] ∨ (m.state = .playNextSong ∨ Urged settings m t) ∧ ∃ result, acts t = actsUntil result := by
  cases h with
  | failed hstate hpolling => exact Or.inl hpolling.acts_eq_nil
  | looked hpolling hjudged => exact Or.inl ((acts_observing hpolling hjudged).trans (acts_entering _ _))
  | @chosen t v u playback now m₁ m' result hpolling hjudged hchoosing =>
    refine Or.inr ⟨Or.inr (hjudged.urged (hpolling.polls _ _) fun x hx => ?_), result, ?_⟩
    · exact List.mem_cons_of_mem _ (List.mem_append_right _ (List.mem_append_left _ hx))
    · rw [acts_observing hpolling hjudged, acts_append, acts_entering]
      exact hchoosing.acts_eq
  | tried hstate hchoosing => exact Or.inr ⟨Or.inl hstate, _, hchoosing.acts_eq⟩

theorem Ticking.urged (h : Ticking settings preferred m t r m') (hstate : m.state ≠ .playNextSong)
    (hacts : acts t ≠ []) : Urged settings m t := by
  rcases h.acts_cases with hnone | ⟨hnext | hurged, -⟩
  · exact absurd hnone hacts
  · exact absurd hnext hstate
  · exact hurged

/-! ## What is playing -/

/-- The playback that an exchange reports to the store. -/
def reportedIn : Exchange interface → Option (Option Playback)
  | ⟨.store op, _⟩ => op.reports
  | _ => none

/-- What the store shows as playing after some exchanges. -/
def shown (before : Option Playback) (t : List (Exchange interface)) : Option Playback :=
  t.foldl (fun playback x => (reportedIn x).getD playback) before

@[simp]
theorem shown_cons (before : Option Playback) (x : Exchange interface) (t : List (Exchange interface)) :
    shown before (x :: t) = shown ((reportedIn x).getD before) t := rfl

@[simp]
theorem shown_append (before : Option Playback) (t u : List (Exchange interface)) :
    shown before (t ++ u) = shown (shown before t) u :=
  List.foldl_append

/-- What is playing stays as it is reported until it is reported anew. -/
theorem shown_of_forall {before : Option Playback} (h : ∀ x ∈ t, reportedIn x = none) :
    shown before t = before := by
  induction t with
  | nil => rfl
  | cons x t ih =>
    obtain ⟨hx, ht⟩ := List.forall_mem_cons.1 h
    rw [shown_cons, hx]
    exact ih ht

@[simp]
theorem shown_atGateway (before : Option Playback) (u : List (Exchange Gateway.interface)) :
    shown before (u.map atGateway) = before := by
  refine shown_of_forall fun x hx => ?_
  obtain ⟨y, -, rfl⟩ := List.mem_map.1 hx
  rfl

@[simp]
theorem shown_committed (before : Option Playback) (op : Queue.Store.Operation) (reply : op.Reply)
    (change : Option Change) : shown before (committed op reply change) = op.reports.getD before := by
  cases change <;> rfl

@[simp]
theorem shown_entering (before : Option Playback) (m : Memory) (next : State) :
    shown before (entering m next) = before := by
  unfold entering
  split <;> rfl

theorem Polling.shown_eq (h : Polling t result now) :
    shown m.lastPlayback t = (m.polled result now).lastPlayback := by
  cases h with
  | failed =>
    rw [shown_append, shown_atGateway]
    rfl
  | reported =>
    rw [shown_append, shown_atGateway]
    exact shown_committed _ _ _ _

theorem Judged.shown_eq {before : Option Playback} (h : Judged settings m playback v next m') :
    shown before v = before := by
  cases h <;> rfl

theorem Selecting.shown_eq {before : Option Playback} {r : Except Error (Option Track)}
    (h : Selecting preferred t r) : shown before t = before := by
  have hpopping : ∀ popped change, shown before (popping popped change) = before :=
    fun popped change => shown_committed before .pop popped change
  cases h with
  | nothing => exact hpopping _ _
  | handed =>
    rw [shown_append, shown_append, shown_atGateway, hpopping]
    rfl
  | putBack =>
    rw [shown_append, shown_append, shown_atGateway, hpopping]
    exact shown_committed _ _ _ _
  | givenUp => rw [shown_append, shown_atGateway, hpopping]

theorem Choosing.shown_eq {before : Option Playback} {r : Except Error (Option Track)}
    (h : Choosing preferred m t r m') : shown before t = before := by
  cases h with
  | intro hselecting => rw [shown_append, shown_entering, hselecting.shown_eq]

/-- After a tick the store shows what was polled last, if nobody else has written it. -/
theorem Ticking.shown_eq (h : Ticking settings preferred m t r m') :
    shown m.lastPlayback t = m'.lastPlayback := by
  cases h with
  | failed hstate hpolling => exact hpolling.shown_eq
  | looked hpolling hjudged =>
    rw [shown_cons, shown_append, shown_append, shown_entering, hjudged.shown_eq]
    exact hpolling.shown_eq.trans hjudged.lastPlayback_eq.symm
  | chosen hpolling hjudged hchoosing =>
    rw [shown_cons, shown_append, shown_append, shown_append, hchoosing.shown_eq, shown_entering,
      hjudged.shown_eq]
    exact hpolling.shown_eq.trans (hchoosing.lastPlayback_eq.trans hjudged.lastPlayback_eq).symm
  | tried hstate hchoosing => exact hchoosing.shown_eq.trans hchoosing.lastPlayback_eq.symm

/-! ## One step -/

/-- What a tick may do, and when, if it finds the memory `m` and leaves `m'`. -/
structure OneStep (settings : Settings) (m : Memory) (t : List (Exchange interface))
    (r : Except Error State) (m' : Memory) : Prop where
  /-- An entry is popped, its track is played, and its start is told: a beginning of this, and each once. -/
  once : acts t <+: [.pop, .play, .start]
  /-- While a track is awaited, no other is started. -/
  awaiting : m.state = .checkPlaying → acts t = []
  /-- A track waits for a player that is free. -/
  idle : m.state = .idle → acts t ≠ [] → ∃ playback s, Polls t (.ok playback) ∧
    playback.any (·.isPlaying) = false ∧ ⟨.readStore, s⟩ ∈ t ∧ (s : Queue.Store).isEmpty = false
  /-- The track that plays is over. -/
  playing : m.state = .playing → acts t ≠ [] → ∃ track playback, m.requested = some track ∧
    Polls t (.ok playback) ∧ ShowsOver settings track (settings.endOfTrackThreshold < m.lastProgress) playback
  /-- A failure leaves the queues alone, is told to nobody, and is recorded. -/
  failed : ∀ e, r = .error e → (∀ x ∈ t, ∀ op, x.request ≠ .store op) ∧ told t = [] ∧
    ∃ now, m' = { m with lastError := some e, polledAt := some now }
  /-- The store shows what was polled last. -/
  shown : shown m.lastPlayback t = m'.lastPlayback

/-- A tick that fails has polled and recorded that the poll failed. -/
theorem Ticking.of_error {e : Error} (h : Ticking settings preferred m t (.error e) m') :
    ∃ (u : List (Exchange Gateway.interface)) (now : Timestamp), t = ⟨.readMemory, m⟩ :: (u.map atGateway ++
      [⟨.readTime, now⟩, ⟨.updateMemory (·.polled (.error e) now), ()⟩]) ∧ m' = m.polled (.error e) now := by
  cases h with
  | failed hstate hpolling =>
    cases hpolling with
    | failed => exact ⟨_, _, rfl, rfl⟩

theorem Ticking.oneStep (h : Ticking settings preferred m t r m')
    (hrequested : m.state = .playing → ∃ track, m.requested = some track) : OneStep settings m t r m' where
  once := by
    rcases h.acts_cases with hacts | ⟨-, result, hacts⟩ <;> rw [hacts]
    · exact ⟨_, rfl⟩
    · exact actsUntil_beginning result
  awaiting hstate := by
    by_contra hacts
    cases h.urged (by rw [hstate]; exact nofun) hacts with
    | queued hidle => cases hstate.symm.trans hidle
    | ended hplaying => cases hstate.symm.trans hplaying
  idle hstate hacts := by
    cases h.urged (by rw [hstate]; exact nofun) hacts with
    | queued _ hpolls hfree hread hs => exact ⟨_, _, hpolls, hfree, hread, hs⟩
    | ended hplaying => cases hstate.symm.trans hplaying
  playing hstate hacts := by
    cases h.urged (by rw [hstate]; exact nofun) hacts with
    | queued hidle => cases hstate.symm.trans hidle
    | ended _ hpolls hover =>
      obtain ⟨track, htrack⟩ := hrequested hstate
      exact ⟨track, _, htrack, hpolls, hover track htrack⟩
  failed e he := by
    subst he
    obtain ⟨u, now, rfl, rfl⟩ := h.of_error
    refine ⟨?_, ?_, now, rfl⟩
    · intro x hx op
      rcases List.mem_cons.1 hx with rfl | hx
      · exact nofun
      rcases List.mem_append.1 hx with hx | hx
      · obtain ⟨a, ha⟩ := request_atGateway hx
        rw [ha]
        exact nofun
      · rcases List.mem_pair.1 hx with rfl | rfl <;> exact nofun
    · show told (u.map atGateway ++ _) = []
      rw [told_append, told_atGateway]
      rfl
  shown := h.shown_eq

end

/-! ## At a party -/

section
variable {σ : Type} {backend : Backend σ} {p p' : Party σ} {t : List (Exchange interface)}

/-- A tick that fails leaves a party as it was, but for the service and the record of the poll. -/
theorem ends_tick_error {settings : Settings} {preferred : Option String} {e : Error}
    (h : (tick settings preferred).run.Ends (serve backend) p t (.error e) p') :
    p' = { p with
      service := p'.service
      memory := { p.memory with lastError := some e, polledAt := some p.time } } := by
  obtain ⟨u, now, rfl, hm⟩ := (ticked_of_ends h).ticking.of_error
  obtain ⟨-, hserved⟩ := Program.served_cons.1 h.served
  obtain ⟨p₁, hcurrent, hrecord⟩ := Program.served_append.1 hserved
  obtain ⟨service, -, rfl⟩ := served_atGateway hcurrent
  obtain ⟨rfl, hmemory⟩ := Program.served_cons.1 hrecord
  obtain ⟨-, hdone⟩ := Program.served_cons.1 hmemory
  obtain rfl := Program.served_nil.1 hdone
  rfl

theorem shown_served (h : Program.Served (serve backend) p t p') :
    p'.store.nowPlaying = shown p.store.nowPlaying t := by
  induction h with
  | nil p => rfl
  | @cons a p p' t _ ih =>
    rw [ih, shown_cons]
    cases a with
    | store op => exact congrArg (shown · t) (Queue.Store.nowPlaying_apply op p.store)
    | _ => rfl

/-- A deed keeps it true that the store shows what was polled last. -/
theorem nowPlaying_after (backend : Backend σ) {d : Deed σ}
    (hqueue : ∀ playback, d ≠ .queue (.setNowPlaying playback))
    (h : p.store.nowPlaying = p.memory.lastPlayback) :
    (d.after backend p).store.nowPlaying = (d.after backend p).memory.lastPlayback := by
  by_cases hd : d = .tick
  · subst hd
    obtain ⟨r, htick⟩ := ends_deed_tick backend p
    rw [shown_served htick.served, h]
    exact (ticked_of_ends htick).ticking.shown_eq
  · have hends := Program.ends_run (d.program p) (serve backend) (d.effect p)
    have hlistening := (d.made_listening p hd hqueue).only (fun _ => trivial) fun _ => id
    have hnone : ∀ x ∈ (d.program p).trace (serve backend) (d.effect p), reportedIn x = none := by
      intro x hx
      have ha := hlistening.yields hends.yields x hx
      obtain ⟨a, x⟩ := x
      cases a with
      | store op => cases op <;> first | rfl | exact ha.elim
      | _ => rfl
    rw [(after_unnoticed backend p hd).1, ← h]
    have heffect : (d.effect p).store = p.store := by cases d <;> rfl
    rw [Deed.after_eq, perform, shown_served hends.served, shown_of_forall hnone, heffect]

theorem nowPlaying_afterAll (backend : Backend σ) {ds : List (Deed σ)}
    (hqueue : ∀ d ∈ ds, ∀ playback, d ≠ .queue (.setNowPlaying playback))
    (h : p.store.nowPlaying = p.memory.lastPlayback) :
    (afterAll backend p ds).store.nowPlaying = (afterAll backend p ds).memory.lastPlayback := by
  induction ds generalizing p with
  | nil => exact h
  | cons d ds ih =>
    obtain ⟨hd, hds⟩ := List.forall_mem_cons.1 hqueue
    exact ih hds (nowPlaying_after backend hd h)

end

/-- **One tick, one step.**  Whatever happened at a party so far, and whatever happens during a tick: it pops,
plays and tells of a start at most once each; not while a track is awaited, in `idle` only if it found the
player free and a track waiting, in `playing` only if its poll showed the track over; and if it fails, only
the failure is recorded.  A tick that fails without anything else happening leaves all of the party as it was
but for that.  After every tick the store shows what was polled last, if only ticks have written it. -/
theorem one_tick_one_step {σ : Type} (backend : Backend σ) (rules : Rules) (scheduling : Settings)
    (sessionNames : Nat → SessionId) (service : σ) (time : Timestamp) (ds : List (Deed σ)) :
    let start := Party.new rules scheduling sessionNames service time
    let p := afterAll backend start ds
    (∀ t r m', Ticked p.scheduling p.rules.preferredDevice p.memory t r m' →
      OneStep p.scheduling p.memory t r m') ∧
    (∀ e, (p.runTick backend).1 = .error e → (p.runTick backend).2 = { p with
      service := (p.runTick backend).2.service
      memory := { p.memory with lastError := some e, polledAt := some p.time } }) ∧
    ((∀ d ∈ ds, ∀ playback, d ≠ .queue (.setNowPlaying playback)) →
      (p.runTick backend).2.store.nowPlaying = (p.runTick backend).2.memory.lastPlayback) := by
  intro start p
  have hstart : Protocol [] start.memory := .start
  have hprotocol : Protocol ([] ++ told (exchangesAll backend start ds)) p.memory := hstart.deeds ds
  refine ⟨fun t r m' h => h.ticking.oneStep fun hstate => ?_, fun e he => ?_, fun hqueue => ?_⟩
  · obtain ⟨track, htrack, -⟩ := hprotocol.requested (Or.inr hstate)
    exact ⟨track, htrack⟩
  · have hends := Program.ends_run (tick p.scheduling p.rules.preferredDevice).run (serve backend) p
    have he' : ((tick p.scheduling p.rules.preferredDevice).run.run (serve backend) p).1 = .error e := he
    rw [he'] at hends
    exact ends_tick_error hends
  · have hbefore : p.store.nowPlaying = p.memory.lastPlayback := nowPlaying_afterAll backend hqueue rfl
    exact nowPlaying_after backend (d := .tick) nofun hbefore

end Jukebox.Party
