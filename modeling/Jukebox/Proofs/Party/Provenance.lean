import Jukebox.Proofs.Cache
import Jukebox.Proofs.Party.Venue
import Jukebox.Proofs.Queue.Effects

/-!
# Where tracks come from

No request and no tick makes up a track.  What they remember or queue was named by the playback service, or
was remembered or queued before (`trusting_program`).  So if every track that the service names is good, every
track that is remembered or queued is good, in whatever order things happen (`wellStocked_run`).
-/

namespace Jukebox.Party

open Queue.Store (Operation)

variable {σ α β : Type} {backend : Backend σ} {good : Track → Prop} {preferred : Option String}

/-- The tracks that a step has remembered or queued. -/
def Action.tracks : Action → List Track
  | .rememberTracks tracks => tracks
  | .store op => op.tracks
  | _ => []

/-- The tracks that the playback service names in an answer. -/
def named : Exchange interface → List Track
  | ⟨.gateway (.call (.lookup _)), x⟩ => (x : Except Error Track).toOption.toList
  | ⟨.gateway (.call (.search ..)), x⟩ => ((x : Except Error (List Track)).toOption.getD [])
  | _ => []

/-- The tracks in an answer. -/
def answered : Exchange interface → List Track
  | ⟨.recallTrack _, x⟩ => (x : Option Track).toList
  | ⟨.store .pop, x⟩ => (Prod.fst (α := Option Queue.Popped) x).toList.map (·.entry.track)
  | x => named x

/-- What the step has remembered or queued is good. -/
def Brings (good : Track → Prop) (a : Action) : Prop :=
  ∀ track ∈ a.tracks, good track

/-- What is answered is good. -/
def Gives (good : Track → Prop) (x : Exchange interface) : Prop :=
  ∀ track ∈ answered x, good track

/-- The playback service names good tracks only at this moment. -/
def Honest (backend : Backend σ) (good : Track → Prop) (m : Moment interface (Party σ)) : Prop :=
  ∀ track ∈ named (m.exchange (serve backend)), good track

/-- Every track that is remembered or queued is good. -/
structure WellStocked (good : Track → Prop) (p : Party σ) : Prop where
  remembered : ∀ track ∈ p.cache.tracks, good track
  queued : ∀ e ∈ p.store.entries, good e.track

/-! ## Steps -/

/-- The best entry is one that waited. -/
theorem mem_of_pop {s : Queue.Store} {popped : Queue.Popped} (h : s.pop.reply = some popped) :
    popped.entry ∈ s.entries := by
  rcases s.pop_cases with ⟨-, ho⟩ | ⟨kind, e, rest, -, hentries, ho⟩ <;> rw [ho] at h
  · cases h
  · cases h
    rw [hentries]
    exact List.mem_cons_self

/-- A step that brings good tracks only leaves only good ones there, and they are what it can answer, unless
the playback service names others. -/
theorem wellStocked_serve (m : Moment interface (Party σ)) (hbrings : Brings good m.request)
    (hp : WellStocked good m.state) (hhonest : Honest backend good m) :
    Gives good (m.exchange (serve backend)) ∧ WellStocked good (serve backend m.request m.state).2 := by
  have hnone : ∀ track ∈ ([] : List Track), good track := fun _ h => absurd h List.not_mem_nil
  obtain ⟨a, p⟩ := m
  cases a with
  | gateway a => exact ⟨hhonest, hp.remembered, hp.queued⟩
  | store op =>
    refine ⟨?_, hp.remembered, fun e he => ?_⟩
    · cases op with
      | pop =>
        intro track htrack
        obtain ⟨popped, hpopped, rfl⟩ := List.mem_map.1 htrack
        exact hp.queued _ (mem_of_pop (Option.mem_toList.1 hpopped))
      | _ => exact hnone
    · rcases Queue.Store.track_of_mem_apply op he with ⟨x, hx, htrack⟩ | htrack
      · rw [← htrack]
        exact hp.queued x hx
      · exact hbrings _ htrack
  | recallTrack id =>
    refine ⟨fun track htrack => ?_, hp⟩
    exact hp.remembered track (TrackCache.get?_eq_some (Option.mem_toList.1 htrack)).1
  | rememberTracks tracks =>
    refine ⟨hnone, fun track htrack => ?_, hp.queued⟩
    rcases TrackCache.mem_insertAll htrack with hnew | hold
    · exact hbrings track hnew
    · exact hp.remembered track hold
  | _ => exact ⟨hnone, hp.remembered, hp.queued⟩

/-! ## Programs -/

/-- The program has only good tracks remembered and queued, as long as it is answered good ones. -/
abbrev Trusts (good : Track → Prop) (meant : α → Prop) (q : Program interface α) : Prop :=
  q.Relies (Gives good) (Brings good) meant

/-- The program has good tracks remembered and queued, and nothing matters of how it ends. -/
abbrev Trusting (good : Track → Prop) (q : Program interface α) : Prop :=
  Trusts good (fun _ => True) q

theorem trusting_pure (a : α) : Trusting good (pure a : Program interface α) :=
  Program.relies_pure trivial

theorem trusts_step {a : Action} {meant : a.Answer → Prop} (ha : Brings good a)
    (h : ∀ x, Gives good ⟨a, x⟩ → meant x) : Trusts good meant (step a) :=
  Program.relies_request (I := interface) ha h

theorem brings_nothing {a : Action} (h : a.tracks = []) : Brings good a := by
  intro track htrack
  rw [h] at htrack
  exact absurd htrack List.not_mem_nil

theorem trusting_step {a : Action} (h : a.tracks = []) : Trusting good (step a) :=
  trusts_step (brings_nothing h) fun _ _ => trivial

theorem Trusting.bind {q : Program interface α} {f : α → Program interface β} (hq : Trusting good q)
    (hf : ∀ a, Trusting good (f a)) : Trusting good (q >>= f) :=
  Program.Relies.bind hq fun a _ => hf a

theorem Trusting.bind_run {x : Task α} {f : α → Task β} (hx : Trusting good x.run)
    (hf : ∀ a, Trusting good (f a).run) : Trusting good (x >>= f).run :=
  Program.Relies.bind_run hx (fun a _ => hf a) fun _ _ => trivial

theorem Trusting.lift {q : Program interface α} (h : Trusting good q) :
    Trusting good (liftM q : Task α).run :=
  Trusting.bind h fun _ => trusting_pure _

theorem Trusting.ite {c : Prop} [Decidable c] {x y : Program interface α} (hx : Trusting good x)
    (hy : Trusting good y) : Trusting good (if c then x else y) := by
  split
  · exact hx
  · exact hy

theorem trusting_commit_good {op : Operation} (h : ∀ track ∈ op.tracks, good track) :
    Trusting good (commit op) := by
  have hstore : Trusting good (step (.store op)) := trusts_step h fun _ _ => trivial
  refine hstore.bind fun outcome => ?_
  obtain ⟨reply, change⟩ := outcome
  cases change with
  | none => exact trusting_pure _
  | some change => exact (trusting_step rfl).bind fun _ => trusting_pure _

theorem trusting_commit {op : Operation} (h : op.tracks = []) : Trusting good (commit op) :=
  trusting_commit_good fun _ htrack => absurd (h ▸ htrack) List.not_mem_nil

theorem trusting_gateway (task : Gateway.Task α) : Trusting good (gateway task).run :=
  (only_gateway fun _ => brings_nothing rfl).relies fun _ _ _ _ => trivial

/-! ## Requests -/

theorem Trusts.lift {q : Program interface α} {meant : α → Prop} (h : Trusts good meant q) :
    Trusts good (fun r => ∀ a, r = .ok a → meant a) (liftM q : Task α).run := by
  refine Program.Relies.bind h fun a ha => Program.relies_pure fun b hb => ?_
  cases hb
  exact ha

theorem trusts_lookup (id : TrackId) :
    Trusts good (fun r => ∀ track, r = .ok track → good track) (gateway (Gateway.lookup id)).run := by
  refine (only_gateway fun _ => brings_nothing rfl).relies fun t r hyields ht track hr => ?_
  subst hr
  exact ht _ (answered_stage hyields) track List.mem_cons_self

theorem trusts_search (pattern : String) (limit : Nat) :
    Trusts good (fun r => ∀ tracks, r = .ok tracks → ∀ track ∈ tracks, good track)
      (gateway (Gateway.search pattern limit)).run := by
  refine (only_gateway fun _ => brings_nothing rfl).relies fun t r hyields ht tracks hr => ?_
  subst hr
  exact ht _ (answered_stage hyields)

theorem trusts_resolve (id : TrackId) :
    Trusts good (fun r => ∀ track, r = .ok track → good track) (resolve id).run := by
  have hrecall : Trusts good (fun seen => ∀ track, seen = some track → good track)
      (step (.recallTrack id)) :=
    trusts_step (brings_nothing rfl) fun seen hseen track htrack => hseen track (Option.mem_toList.2 htrack)
  refine hrecall.lift.bind_run (fun seen hseen => ?_) fun _ _ => nofun
  cases seen with
  | some track =>
    refine Program.relies_pure fun _ htrack => ?_
    cases htrack
    exact hseen _ rfl track rfl
  | none =>
    refine (trusts_lookup id).bind_run (fun track htrack => ?_) fun _ _ => nofun
    have hgood : good track := htrack track rfl
    have hremember : Trusting good (step (.rememberTracks [track])) :=
      trusts_step (fun x hx => List.mem_singleton.1 hx ▸ hgood) fun _ _ => trivial
    refine Program.Relies.bind_run hremember.lift (fun _ _ => Program.relies_pure fun _ h => ?_) fun _ _ => nofun
    cases h
    exact hgood

theorem trusting_findSession (id : SessionId) : Trusting good (findSession id).run :=
  trusting_step rfl

theorem trusting_requireAdmin (session : Session) (what : String) :
    Trusting good (requireAdmin session what).run :=
  .ite (trusting_pure _) (trusting_pure _)

theorem trusting_stepVolume (delta : Int16) : Trusting good (stepVolume delta).run :=
  (trusting_gateway _).bind_run fun _ => (trusting_step rfl).lift

theorem trusting_request {rules : Rules} (q : Request) : Trusting good (q.task rules).run := by
  cases q with
  | openSession password nickname => exact (trusting_step rfl).lift.bind_run fun _ => trusting_pure _
  | search pattern limit =>
    have hsearch : ∀ n, Trusting good (do
        let tracks ← gateway (Gateway.search pattern n)
        step (.rememberTracks tracks)
        pure tracks : Task (List Track)).run := by
      intro n
      refine (trusts_search pattern n).bind_run (fun tracks htracks => ?_) fun _ _ => trivial
      have hremember : Trusting good (step (.rememberTracks tracks)) :=
        trusts_step (htracks tracks rfl) fun _ _ => trivial
      exact hremember.lift.bind_run fun _ => trusting_pure _
    cases limit with
    | none => exact hsearch defaultLimit
    | some n => exact .ite ((trusting_pure _).bind_run hsearch) ((trusting_pure _).bind_run hsearch)
  | queues session =>
    refine (trusting_findSession _).bind_run fun _ => ?_
    exact (trusting_step rfl).lift.bind_run fun _ => trusting_pure _
  | add session id queue =>
    have hadd : Trusting good (do
        let track ← resolve id
        ExceptT.mk (commit (.enqueue track queue)) : Task Unit).run := by
      refine (trusts_resolve id).bind_run (fun track htrack => ?_) fun _ _ => trivial
      exact trusting_commit_good fun x hx => List.mem_singleton.1 hx ▸ htrack track rfl
    refine (trusting_findSession _).bind_run fun session => ?_
    exact .ite ((trusting_requireAdmin _ _).bind_run fun _ => hadd) hadd
  | vote session id up => exact (trusting_findSession _).bind_run fun _ => trusting_commit rfl
  | control session action =>
    refine (trusting_findSession _).bind_run fun _ => ?_
    refine (trusting_requireAdmin _ _).bind_run fun _ => ?_
    cases action with
    | play | pause | stop | skip => exact trusting_gateway _
    | volumeUp | volumeDown => exact trusting_stepVolume _
  | remove session id =>
    refine (trusting_findSession _).bind_run fun _ => ?_
    refine (trusting_requireAdmin _ _).bind_run fun _ => ?_
    have hremove : Trusting good (commit (.remove id)) := trusting_commit rfl
    exact Trusting.bind_run hremove fun _ => trusting_pure _
  | move session id queue =>
    refine (trusting_findSession _).bind_run fun _ => ?_
    exact (trusting_requireAdmin _ _).bind_run fun _ => trusting_commit rfl

/-! ## Ticks -/

theorem trusting_poll : Trusting good poll.run := by
  refine (trusting_gateway _).bind fun result => ?_
  refine (trusting_step rfl).bind fun now => ?_
  refine (trusting_step rfl).bind fun _ => ?_
  cases result with
  | ok playback =>
    exact (trusting_commit rfl).bind fun _ => trusting_pure _
  | error e => exact trusting_pure _

theorem trusting_enter (next : Scheduler.State) : Trusting good (enter next) := by
  refine (trusting_step rfl).bind fun memory => ?_
  exact (trusting_step rfl).bind fun _ => .ite (trusting_step rfl) (trusting_pure _)

theorem trusts_pop : Trusts good (fun r => ∀ popped, (r : Option Queue.Popped) = some popped →
    good popped.entry.track) (commit .pop) := by
  have hpop : Trusts good (fun x : Option Queue.Popped × Option Queue.Change => ∀ popped, x.1 = some popped →
      good popped.entry.track) (step (.store .pop)) := by
    refine trusts_step (brings_nothing rfl) fun x hx popped hpopped => ?_
    exact hx _ (List.mem_map_of_mem (Option.mem_toList.2 hpopped))
  refine hpop.bind fun outcome hgood => ?_
  obtain ⟨reply, change⟩ := outcome
  cases change with
  | none => exact Program.relies_pure hgood
  | some change => exact Program.Relies.bind (trusting_step rfl) fun _ _ => Program.relies_pure hgood

/-- What goes back was popped. -/
theorem trusting_nextTrack : Trusting good (nextTrack preferred).run := by
  refine Program.Relies.bind trusts_pop fun popped hpopped => ?_
  cases (popped : Option Queue.Popped) with
  | none => exact trusting_pure _
  | some popped =>
    refine Trusting.bind (trusting_gateway _) fun r => ?_
    cases (r : Except Error Unit) with
    | ok _ =>
      refine (trusting_step rfl).bind fun _ => ?_
      exact (trusting_step rfl).bind fun _ => trusting_pure _
    | error e =>
      dsimp only
      split
      · have hrestore : Trusting good (commit (.restore popped)) :=
          trusting_commit_good fun x hx => List.mem_singleton.1 hx ▸ hpopped popped rfl
        exact hrestore.bind fun _ => trusting_pure _
      · exact trusting_pure _

theorem trusting_whenPlayNextSong : Trusting good (whenPlayNextSong preferred) := by
  refine trusting_nextTrack.bind fun r => ?_
  split <;> exact trusting_pure _

theorem trusting_whenIdle : Trusting good whenIdle.run := by
  refine trusting_poll.bind_run fun playback => ?_
  refine .ite (trusting_pure _) ?_
  exact (trusting_step rfl).lift.bind_run fun _ => trusting_pure _

theorem trusting_missing {checkAttempts : UInt32} {memory : Scheduler.Memory} :
    Trusting good (whenCheckPlaying.missing checkAttempts memory).run := by
  refine .ite ?_ ?_
  · exact (trusting_step rfl).lift.bind_run fun _ => trusting_pure _
  · exact (trusting_step rfl).lift.bind_run fun _ => trusting_pure _

theorem trusting_whenCheckPlaying {checkAttempts : UInt32} :
    Trusting good (whenCheckPlaying checkAttempts).run := by
  refine trusting_poll.bind_run fun playback => ?_
  refine (trusting_step rfl).lift.bind_run fun memory => ?_
  split
  · refine .ite ?_ trusting_missing
    exact (trusting_step rfl).lift.bind_run fun _ => trusting_pure _
  · exact trusting_missing

theorem trusting_whenPlaying {threshold : UInt64} : Trusting good (whenPlaying threshold).run := by
  refine trusting_poll.bind_run fun playback => ?_
  refine (trusting_step rfl).lift.bind_run fun memory => ?_
  have hverdict : Trusting good
      (if Scheduler.isFinished memory.requested playback memory.lastProgress threshold then
        pure .playNextSong
      else pure .playing : Task Scheduler.State).run := .ite (trusting_pure _) (trusting_pure _)
  dsimp only
  split
  · split
    · exact (trusting_step rfl).lift.bind_run fun _ => hverdict
    · exact hverdict
  · exact hverdict

theorem trusting_found {current next : Scheduler.State} :
    Trusting good (do
      enter next
      if next = .playNextSong ∧ current ≠ .playNextSong then do
        let next ← whenPlayNextSong preferred
        enter next
        pure next
      else pure next : Task Scheduler.State).run := by
  refine (trusting_enter next).lift.bind_run fun _ => ?_
  refine .ite ?_ (trusting_pure _)
  refine trusting_whenPlayNextSong.lift.bind_run fun next => ?_
  exact (trusting_enter next).lift.bind_run fun _ => trusting_pure _

theorem trusting_tick {settings : Scheduler.Settings} : Trusting good (tick settings preferred).run := by
  refine (trusting_step rfl).lift.bind_run fun memory => ?_
  dsimp only
  split
  · exact trusting_whenIdle.bind_run fun _ => trusting_found
  · exact trusting_whenPlayNextSong.lift.bind_run fun _ => trusting_found
  · exact trusting_whenCheckPlaying.bind_run fun _ => trusting_found
  · exact trusting_whenPlaying.bind_run fun _ => trusting_found

/-! ## Parties -/

/-- An operation on the queues that is nobody's request is trusted if it puts in good tracks. -/
theorem trusting_program (p : Party σ) {d : Deed σ}
    (hd : ∀ op, d = .queue op → ∀ track ∈ op.tracks, good track) : Trusting good (d.program p) := by
  cases d with
  | tick => exact trusting_tick
  | request q => exact trusting_request q
  | queue op => exact trusting_commit_good (hd op rfl)
  | operate op => exact trusting_gateway _
  | join nickname isAdmin => exact trusting_step rfl
  | wait | intervene => exact trusting_pure _

/-- **No track is made up.**  At a party that begins, let ticks, requests and whatever else happens take
turns in any order.  If the playback service has named good tracks only, and only those were put in by
operations on the queues that were nobody's request, then all tracks that are remembered or queued are
good. -/
theorem wellStocked_run (backend : Backend σ) (rules : Rules) (scheduling : Scheduler.Settings)
    (names : Nat → SessionId) (service : σ) (time : Timestamp) {picks : List (Pick (Deed σ))}
    (hqueue : ∀ op, .begin (.queue op) ∈ picks → ∀ track ∈ op.tracks, good track)
    (hhonest : ∀ x ∈ ((Venue.Scene.start (venue backend)
      (Party.new rules scheduling names service time)).run picks).log, Honest backend good x.toMoment) :
    WellStocked good ((Venue.Scene.start (venue backend)
      (Party.new rules scheduling names service time)).run picks).state := by
  have hbegin : ∀ d p, .begin d ∈ picks → WellStocked good p → WellStocked good ((venue backend).effect d p) ∧
      Trusting good ((venue backend).program d p) := by
    intro d p hd hp
    refine ⟨?_, trusting_program p fun op heq => hqueue op (heq ▸ hd)⟩
    cases d <;> exact ⟨hp.remembered, hp.queued⟩
  have hnew : WellStocked good (Party.new rules scheduling names service time) :=
    ⟨fun _ h => absurd h List.not_mem_nil, fun _ h => absurd h List.not_mem_nil⟩
  exact Venue.Scene.run_relies hbegin wellStocked_serve hnew hhonest

/-- The same for one more request. -/
theorem wellStocked_request {p : Party σ} (q : Request) (hp : WellStocked good p)
    (hhonest : ∀ m ∈ (q.task p.rules).run.moments (serve backend) p, Honest backend good m) :
    WellStocked good (p.request backend q).2 :=
  ((trusting_request q).run wellStocked_serve hp hhonest).2

end Jukebox.Party
