import Jukebox.Proofs.Party.Selection

/-!
# The moves of the scheduler

A tick is one `Move` or two: a poll that fails, a poll that is judged and a state entered, or a track
chosen and a state entered (`ends_tick`).  Whatever every move keeps is thus kept by every tick.

`Looked` says how a poll is judged, `Selected` how a track is chosen, and `Entered` what it is to enter a
state.  Polls are made `Aside`: they start nothing, tell nothing and leave the queues alone.
-/

namespace Jukebox.Party

open Scheduler (State Memory Settings)

variable {σ : Type} {backend : Backend σ} {p p₁ p₂ p' : Party σ} {t t₁ t₂ : List (Exchange interface)}

/-- Nothing is told or started, and the queues stay as they are. -/
structure Aside (p : Party σ) (t : List (Exchange interface)) (p' : Party σ) : Prop where
  told : told t = []
  started : started t = []
  store : ∃ playback, p'.store = { p.store with nowPlaying := playback }

theorem Aside.trans (h : Aside p t₁ p₁) (h' : Aside p₁ t₂ p₂) : Aside p (t₁ ++ t₂) p₂ where
  told := by
    rw [told_append, h.told, h'.told]
    rfl
  started := by
    rw [started_append, h.started, h'.started]
    rfl
  store := by
    obtain ⟨playback, h⟩ := h.store
    obtain ⟨playback', h'⟩ := h'.store
    rw [h] at h'
    exact ⟨playback', h'⟩

theorem Aside.nil (p : Party σ) : Aside p [] p :=
  ⟨rfl, rfl, p.store.nowPlaying, rfl⟩

/-- A step that neither tells nor starts anything nor changes the store. -/
theorem ends_aside {a : Action} {x : a.Answer} (h : (step a).Ends (serve backend) p t x p')
    (htold : toldIn ⟨a, x⟩ = none) (hstarted : startedIn ⟨a, x⟩ = none)
    (hstore : (serve backend a p).2.store = p.store) :
    p'.memory = (serve backend a p).2.memory ∧ Aside p t p' := by
  obtain ⟨rfl, -, rfl⟩ := Program.ends_request.1 h
  refine ⟨rfl, ?_, ?_, p.store.nowPlaying, hstore⟩
  · unfold told
    rw [List.filterMap_cons_none htold]
    rfl
  · unfold started
    rw [List.filterMap_cons_none hstarted]
    rfl

theorem ends_readMemory {m : Memory} (h : readMemory.Ends (serve backend) p t m p') :
    m = p.memory ∧ p'.memory = p.memory ∧ Aside p t p' := by
  obtain ⟨-, hm, -⟩ := Program.ends_request.1 h
  exact ⟨hm, ends_aside h rfl rfl rfl⟩

theorem ends_updateMemory {change : Memory → Memory} {a : Unit}
    (h : (updateMemory change).Ends (serve backend) p t a p') :
    p'.memory = change p.memory ∧ Aside p t p' :=
  ends_aside h rfl rfl rfl

theorem ends_readStore {s : Queue.Store} (h : (step .readStore).Ends (serve backend) p t s p') :
    p'.memory = p.memory ∧ Aside p t p' :=
  ends_aside h rfl rfl rfl

theorem ends_readTime {now : Timestamp} (h : (step .readTime).Ends (serve backend) p t now p') :
    p'.memory = p.memory ∧ Aside p t p' :=
  ends_aside h rfl rfl rfl

/-! ## Polls -/

theorem ends_current {r : Except Error (Option Playback)}
    (h : (gateway Gateway.current).run.Ends (serve backend) p t r p') :
    p'.memory = p.memory ∧ Aside p t p' := by
  obtain ⟨u, hu, rfl⟩ := yields_gateway h.yields
  obtain ⟨service, -, rfl⟩ := served_atGateway h.served
  refine ⟨rfl, told_atGateway u, ?_, p.store.nowPlaying, rfl⟩
  rw [started_atGateway]
  exact (Gateway.yields_stage hu).started_of_ne (by decide)

theorem ends_setNowPlaying {playback : Option Playback} {a : Unit}
    (h : (commit (.setNowPlaying playback)).Ends (serve backend) p t a p') :
    p'.memory = p.memory ∧ Aside p t p' := by
  obtain ⟨change, rfl⟩ := yields_commit h.yields
  obtain ⟨-, rfl, bus, rfl⟩ := served_committed h.served
  exact ⟨rfl, rfl, rfl, playback, rfl⟩

theorem ends_poll {r : Except Error (Option Playback)} (h : poll.run.Ends (serve backend) p t r p') :
    (∃ now, p'.memory = p.memory.polled r now) ∧ Aside p t p' := by
  obtain ⟨t₁, _, result, p₁, rfl, hcurrent, hrest⟩ := Program.ends_bind.1 h
  obtain ⟨t₂, _, now, p₂, rfl, htime, hrest⟩ := Program.ends_bind.1 hrest
  obtain ⟨t₃, _, _, p₃, rfl, hmemory, hrest⟩ := Program.ends_bind.1 hrest
  obtain ⟨hm₁, ha₁⟩ := ends_current hcurrent
  obtain ⟨hm₂, ha₂⟩ := ends_readTime htime
  obtain ⟨hm₃, ha₃⟩ := ends_updateMemory hmemory
  have hm : p₃.memory = p.memory.polled result now := by rw [hm₃, hm₂, hm₁]
  cases result with
  | ok playback =>
    obtain ⟨t₄, _, _, p₄, rfl, hstore, hdone⟩ := Program.ends_bind.1 hrest
    obtain ⟨rfl, rfl, rfl⟩ := Program.ends_pure.1 hdone
    obtain ⟨hm₄, ha₄⟩ := ends_setNowPlaying hstore
    rw [List.append_nil]
    exact ⟨⟨now, hm₄.trans hm⟩, ha₁.trans (ha₂.trans (ha₃.trans ha₄))⟩
  | error e =>
    obtain ⟨rfl, rfl, rfl⟩ := Program.ends_pure.1 hrest
    rw [List.append_nil]
    exact ⟨⟨now, hm⟩, ha₁.trans (ha₂.trans ha₃)⟩

/-! ## Judging a poll -/

/-- How a poll is judged, given what was remembered before, and what is remembered then. -/
inductive Looked (m : Memory) : Except Error State → Memory → Prop
  | failed (e : Error) (now : Timestamp) : Looked m (.error e) (m.polled (.error e) now)
  /-- A track is awaited to be queued, and the player to be free. -/
  | waiting {next : State} (hstate : m.state = .idle) (hnext : next = .idle ∨ next = .playNextSong)
      (playback : Option Playback) (now : Timestamp) :
      Looked m (.ok next) (m.polled (.ok playback) now)
  /-- The started track is reported. -/
  | confirmed {track : Track} {playback : Playback} (hstate : m.state = .checkPlaying)
      (hrequested : m.requested = some track) (hid : playback.id = track.id) (now : Timestamp) :
      Looked m (.ok .playing)
        { m.polled (.ok (some playback)) now with attempts := 0, lastProgress := playback.progress }
  /-- The started track is not reported yet. -/
  | missing (hstate : m.state = .checkPlaying) (playback : Option Playback) (now : Timestamp)
      (attempts : UInt32) :
      Looked m (.ok .checkPlaying) { m.polled (.ok playback) now with attempts := attempts }
  /-- The started track was not reported for too long. -/
  | lost (hstate : m.state = .checkPlaying) (playback : Option Playback) (now : Timestamp) :
      Looked m (.ok .idle) { m.polled (.ok playback) now with attempts := 0, requested := none }
  /-- The track goes on. -/
  | running {track : Track} {playback : Playback} (hstate : m.state = .playing)
      (hrequested : m.requested = some track) (hid : playback.id = track.id) (now : Timestamp)
      (progress : UInt64) :
      Looked m (.ok .playing) { m.polled (.ok (some playback)) now with lastProgress := progress }
  /-- The track is over. -/
  | finished (hstate : m.state = .playing) (playback : Option Playback) (now : Timestamp)
      (progress : UInt64) :
      Looked m (.ok .playNextSong) { m.polled (.ok playback) now with lastProgress := progress }

/-- A poll that fails is the end of the look. -/
theorem ends_poll_error {e : Error} (h : poll.run.Ends (serve backend) p t (.error e) p') :
    Looked p.memory (.error e) p'.memory ∧ Aside p t p' := by
  obtain ⟨⟨now, hm⟩, ha⟩ := ends_poll h
  rw [hm]
  exact ⟨.failed e now, ha⟩

theorem ends_whenIdle {r : Except Error State} (h : whenIdle.run.Ends (serve backend) p t r p')
    (hstate : p.memory.state = .idle) : Looked p.memory r p'.memory ∧ Aside p t p' := by
  rcases Program.ends_bind_run.1 h with ⟨t₁, _, playback, p₁, rfl, hpoll, hrest⟩ | ⟨e, he, rfl⟩
  · obtain ⟨⟨now, hm₁⟩, ha₁⟩ := ends_poll hpoll
    split at hrest
    · obtain ⟨rfl, rfl, rfl⟩ := Program.ends_pure.1 hrest
      rw [List.append_nil, hm₁]
      exact ⟨.waiting hstate (Or.inl rfl) playback now, ha₁⟩
    · obtain ⟨t₂, _, s, p₂, rfl, hread, hdone⟩ := Program.ends_bind_lift.1 hrest
      obtain ⟨rfl, rfl, rfl⟩ := Program.ends_pure.1 hdone
      obtain ⟨hm₂, ha₂⟩ := ends_readStore hread
      rw [List.append_nil, hm₂, hm₁]
      refine ⟨.waiting hstate ?_ playback now, ha₁.trans ha₂⟩
      split
      · exact Or.inl rfl
      · exact Or.inr rfl
  · exact ends_poll_error he

theorem id_eq_of_isConfirmed {track : Track} {playback : Playback}
    (h : Scheduler.isConfirmed track playback = true) : playback.id = track.id := by
  unfold Scheduler.isConfirmed at h
  rw [Bool.and_eq_true, beq_iff_eq] at h
  exact h.1

theorem ends_missing {attempts : UInt32} {memory : Memory} {r : Except Error State}
    (h : (whenCheckPlaying.missing attempts memory).run.Ends (serve backend) p t r p') :
    Aside p t p' ∧ (r = .ok .idle ∧ p'.memory = { p.memory with attempts := 0, requested := none } ∨
      r = .ok .checkPlaying ∧ ∃ n, p'.memory = { p.memory with attempts := n }) := by
  unfold whenCheckPlaying.missing at h
  dsimp only at h
  split at h
  all_goals
    obtain ⟨t₁, _, _, p₁, rfl, hmemory, hdone⟩ := Program.ends_bind_lift.1 h
    obtain ⟨rfl, rfl, rfl⟩ := Program.ends_pure.1 hdone
    obtain ⟨hm, ha⟩ := ends_updateMemory hmemory
    rw [List.append_nil]
  · exact ⟨ha, Or.inl ⟨rfl, hm⟩⟩
  · exact ⟨ha, Or.inr ⟨rfl, _, hm⟩⟩

theorem ends_whenCheckPlaying {attempts : UInt32} {r : Except Error State}
    (h : (whenCheckPlaying attempts).run.Ends (serve backend) p t r p')
    (hstate : p.memory.state = .checkPlaying) : Looked p.memory r p'.memory ∧ Aside p t p' := by
  rcases Program.ends_bind_run.1 h with ⟨t₁, _, playback, p₁, rfl, hpoll, hrest⟩ | ⟨e, he, rfl⟩
  · obtain ⟨⟨now, hm₁⟩, ha₁⟩ := ends_poll hpoll
    obtain ⟨t₂, t₃, memory, p₂, rfl, hread, hjudge⟩ := Program.ends_bind_lift.1 hrest
    obtain ⟨rfl, hm₂, ha₂⟩ := ends_readMemory hread
    -- The track is missing if none is requested, and also if another one is reported.
    have hmissing : (whenCheckPlaying.missing attempts p₁.memory).run.Ends (serve backend) p₂ t₃ r p' →
        Looked p.memory r p'.memory ∧ Aside p (t₁ ++ (t₂ ++ t₃)) p' := by
      intro hmiss
      obtain ⟨ha₃, ⟨rfl, hm₃⟩ | ⟨rfl, n, hm₃⟩⟩ := ends_missing hmiss <;> rw [hm₃, hm₂, hm₁]
      · exact ⟨.lost hstate playback now, ha₁.trans (ha₂.trans ha₃)⟩
      · exact ⟨.missing hstate playback now n, ha₁.trans (ha₂.trans ha₃)⟩
    split at hjudge
    · next track q hrequested =>
      split at hjudge
      · next hconfirmed =>
        obtain ⟨t₄, _, _, p₃, rfl, hmemory, hdone⟩ := Program.ends_bind_lift.1 hjudge
        obtain ⟨rfl, rfl, rfl⟩ := Program.ends_pure.1 hdone
        obtain ⟨hm₃, ha₃⟩ := ends_updateMemory hmemory
        rw [hm₁] at hrequested
        rw [List.append_nil, hm₃, hm₂, hm₁]
        exact ⟨.confirmed hstate hrequested (id_eq_of_isConfirmed hconfirmed) now,
          ha₁.trans (ha₂.trans ha₃)⟩
      · exact hmissing hjudge
    · exact hmissing hjudge
  · exact ends_poll_error he

theorem isFinished_eq_false {expected : Option Track} {current : Option Playback}
    {previous threshold : UInt64}
    (h : Scheduler.isFinished expected current previous threshold = false) :
    ∃ track playback, expected = some track ∧ current = some playback ∧ playback.id = track.id := by
  cases expected with
  | none => cases h
  | some track =>
    cases current with
    | none => cases h
    | some playback =>
      refine ⟨track, playback, rfl, rfl, ?_⟩
      apply Classical.byContradiction
      intro hne
      rw [Scheduler.isFinished_iff.2 (Or.inl hne)] at h
      cases h

theorem ends_verdict {finished : Bool} {r : Except Error State}
    (h : (if finished = true then pure .playNextSong else pure .playing : Task State).run.Ends
      (serve backend) p t r p') :
    t = [] ∧ p' = p ∧ r = .ok (if finished = true then .playNextSong else .playing) := by
  split at h
  all_goals
    obtain ⟨rfl, rfl, rfl⟩ := Program.ends_pure.1 h
  · next hf => exact ⟨rfl, rfl, by rw [if_pos hf]⟩
  · next hf => exact ⟨rfl, rfl, by rw [if_neg hf]⟩

theorem ends_whenPlaying {threshold : UInt64} {r : Except Error State}
    (h : (whenPlaying threshold).run.Ends (serve backend) p t r p')
    (hstate : p.memory.state = .playing) : Looked p.memory r p'.memory ∧ Aside p t p' := by
  rcases Program.ends_bind_run.1 h with ⟨t₁, _, playback, p₁, rfl, hpoll, hrest⟩ | ⟨e, he, rfl⟩
  · obtain ⟨⟨now, hm₁⟩, ha₁⟩ := ends_poll hpoll
    obtain ⟨t₂, t₃, memory, p₂, rfl, hread, hjudge⟩ := Program.ends_bind_lift.1 hrest
    obtain ⟨rfl, hm₂, ha₂⟩ := ends_readMemory hread
    -- At most the progress is noted before the verdict, which does not depend on it.
    have hend : ∃ progress, p'.memory = { p₂.memory with lastProgress := progress } ∧
        Aside p₂ t₃ p' ∧ r = .ok (if Scheduler.isFinished p₁.memory.requested playback
          p₁.memory.lastProgress threshold = true then .playNextSong else .playing) := by
      dsimp only at hjudge
      split at hjudge
      · split at hjudge
        · obtain ⟨t₄, t₅, _, p₃, rfl, hmemory, hdone⟩ := Program.ends_bind_lift.1 hjudge
          obtain ⟨hm₃, ha₃⟩ := ends_updateMemory hmemory
          obtain ⟨rfl, rfl, hr⟩ := ends_verdict hdone
          rw [List.append_nil]
          exact ⟨_, hm₃, ha₃, hr⟩
        · obtain ⟨rfl, rfl, hr⟩ := ends_verdict hjudge
          exact ⟨p'.memory.lastProgress, rfl, .nil _, hr⟩
      · obtain ⟨rfl, rfl, hr⟩ := ends_verdict hjudge
        exact ⟨p'.memory.lastProgress, rfl, .nil _, hr⟩
    obtain ⟨progress, hm₃, ha₃, rfl⟩ := hend
    rw [hm₃, hm₂, hm₁]
    refine ⟨?_, ha₁.trans (ha₂.trans ha₃)⟩
    split
    · exact .finished hstate playback now progress
    · next hf =>
      obtain ⟨track, q, hrequested, rfl, hid⟩ := isFinished_eq_false (Bool.eq_false_iff.2 hf)
      exact .running hstate hrequested hid now progress
  · exact ends_poll_error he

/-! ## Entering a state -/

/-- The state `next` is entered; observers are told if it is another one. -/
structure Entered (p : Party σ) (next : State) (t : List (Exchange interface)) (p' : Party σ) :
    Prop where
  told : told t =
    if p.memory.state = next then [] else [.schedulerStateChanged p.memory.state next]
  started : started t = []
  store : p'.store = p.store
  memory : p'.memory = { p.memory with state := next }

/-- Tells observers what happened. -/
def tell (occurrence : Occurrence) : Program interface Unit :=
  step (.publish occurrence)

theorem ends_tell {old next : State} {a : Unit}
    (h : (if old ≠ next then tell (.schedulerStateChanged old next) else pure ()).Ends
      (serve backend) p t a p') :
    told t = (if old = next then [] else [.schedulerStateChanged old next]) ∧ started t = [] ∧
      p'.store = p.store ∧ p'.memory = p.memory := by
  split at h
  · next hne =>
    obtain ⟨rfl, -, rfl⟩ := Program.ends_request.1 h
    refine ⟨?_, rfl, rfl, rfl⟩
    rw [if_neg hne]
    rfl
  · next heq =>
    obtain ⟨rfl, -, rfl⟩ := Program.ends_pure.1 h
    refine ⟨?_, rfl, rfl, rfl⟩
    rw [if_pos (Classical.not_not.1 heq)]
    rfl

theorem ends_enter {next : State} {a : Unit} (h : (enter next).Ends (serve backend) p t a p') :
    Entered p next t p' := by
  obtain ⟨t₁, _, memory, p₁, rfl, hread, hrest⟩ := Program.ends_bind.1 h
  obtain ⟨t₂, t₃, _, p₂, rfl, hmemory, htell⟩ := Program.ends_bind.1 hrest
  obtain ⟨rfl, rfl, rfl⟩ := Program.ends_request.1 hread
  obtain ⟨rfl, -, rfl⟩ := Program.ends_request.1 hmemory
  obtain ⟨htold, hstarted, hstore, hm⟩ := ends_tell htell
  exact ⟨htold, hstarted, hstore, hm⟩

/-! ## Ticks -/

/-- The state that follows when the next track was chosen. -/
def following : Except Error (Option Track) → State
  | .ok (some _) => .checkPlaying
  | .ok none => .idle
  | .error _ => .playNextSong

/-- One move of the scheduler. -/
inductive Move (backend : Backend σ) (preferred : Option String) (p : Party σ) :
    List (Exchange interface) → Party σ → Prop
  /-- The poll fails, and the state stays. -/
  | failed {t p' e} : Aside p t p' → Looked p.memory (.error e) p'.memory →
      Move backend preferred p t p'
  | looked {t₁ t₂ p₁ p' next} : Aside p t₁ p₁ → Looked p.memory (.ok next) p₁.memory →
      Entered p₁ next t₂ p' → Move backend preferred p (t₁ ++ t₂) p'
  | chosen {t₁ t₂ p₁ p' r} : p.memory.state = .playNextSong →
      Selected backend preferred p t₁ p₁ r → Entered p₁ (following r) t₂ p' →
      Move backend preferred p (t₁ ++ t₂) p'

theorem ends_whenPlayNextSong {preferred : Option String} {next : State}
    (h : (whenPlayNextSong preferred).Ends (serve backend) p t next p') :
    ∃ r, next = following r ∧ Selected backend preferred p t p' r := by
  obtain ⟨t₁, t₂, r, p₁, rfl, hnext, hrest⟩ := Program.ends_bind.1 h
  have hfollow : (pure (following r) : Program interface State).Ends (serve backend) p₁ t₂ next p' := by
    match r, hrest with
    | .ok (some _), hrest => exact hrest
    | .ok none, hrest => exact hrest
    | .error _, hrest => exact hrest
  obtain ⟨rfl, rfl, rfl⟩ := Program.ends_pure.1 hfollow
  rw [List.append_nil]
  exact ⟨r, rfl, ends_nextTrack hnext⟩

/-- Choosing the next track and entering the state that follows is a move, whatever comes then. -/
theorem ends_chosen {preferred : Option String} {rest : State → Task State} {r : Except Error State}
    (h : (do
      let next ← whenPlayNextSong preferred
      enter next
      rest next : Task State).run.Ends (serve backend) p t r p')
    (hstate : p.memory.state = .playNextSong) :
    ∃ t₁ t₂ p₁ next, t = t₁ ++ t₂ ∧ Move backend preferred p t₁ p₁ ∧
      (rest next).run.Ends (serve backend) p₁ t₂ r p' := by
  obtain ⟨t₁, _, next, p₁, rfl, hnext, hrest⟩ := Program.ends_bind_lift.1 h
  obtain ⟨t₂, t₃, _, p₂, rfl, henter, hend⟩ := Program.ends_bind_lift.1 hrest
  obtain ⟨result, rfl, hselected⟩ := ends_whenPlayNextSong hnext
  refine ⟨t₁ ++ t₂, t₃, p₂, _, ?_, .chosen hstate hselected (ends_enter henter), hend⟩
  rw [List.append_assoc]

/-- Chooses the next track and enters the state that follows. -/
def choose (preferred : Option String) : Task State := do
  let next ← whenPlayNextSong preferred
  enter next
  pure next

theorem ends_choose {preferred : Option String} {r : Except Error State}
    (h : (choose preferred).run.Ends (serve backend) p t r p')
    (hstate : p.memory.state = .playNextSong) : Move backend preferred p t p' := by
  obtain ⟨t₁, _, p₁, next, rfl, hmove, hdone⟩ := ends_chosen h hstate
  obtain ⟨rfl, rfl, rfl⟩ := Program.ends_pure.1 hdone
  rw [List.append_nil]
  exact hmove

/-- Enters a state that was found, and goes on if that is `playNextSong`. -/
def proceed (preferred : Option String) (current next : State) : Task State := do
  enter next
  if next = .playNextSong ∧ current ≠ .playNextSong then choose preferred else pure next

/-- One move of the scheduler, or two. -/
def Moves (backend : Backend σ) (preferred : Option String) (p : Party σ)
    (t : List (Exchange interface)) (p' : Party σ) : Prop :=
  Move backend preferred p t p' ∨ ∃ t₁ t₂ p₁, t = t₁ ++ t₂ ∧ Program.Served (serve backend) p t₁ p₁ ∧
    Move backend preferred p t₁ p₁ ∧ Move backend preferred p₁ t₂ p'

theorem ends_proceed {preferred : Option String} {current next : State} {r : Except Error State}
    (hserved : Program.Served (serve backend) p t₁ p₁) (ha : Aside p t₁ p₁)
    (hlooked : Looked p.memory (.ok next) p₁.memory)
    (h : (proceed preferred current next).run.Ends (serve backend) p₁ t₂ r p') :
    Moves backend preferred p (t₁ ++ t₂) p' := by
  obtain ⟨t₃, t₄, _, p₂, rfl, henter, hrest⟩ := Program.ends_bind_lift.1 h
  have hentered := ends_enter henter
  have hmove : Move backend preferred p (t₁ ++ t₃) p₂ := .looked ha hlooked hentered
  split at hrest
  · next hnext =>
    have hstate : p₂.memory.state = .playNextSong := by
      rw [hentered.memory]
      exact hnext.1
    refine Or.inr ⟨t₁ ++ t₃, t₄, p₂, ?_, ?_, hmove, ends_choose hrest hstate⟩
    · rw [List.append_assoc]
    · exact Program.served_append.2 ⟨p₁, hserved, henter.served⟩
  · obtain ⟨rfl, rfl, rfl⟩ := Program.ends_pure.1 hrest
    rw [List.append_nil]
    exact Or.inl hmove

/-- What a look at the playback and what follows from it come to. -/
theorem ends_look {look : Task State} {preferred : Option String} {current : State}
    {r : Except Error State}
    (h : (look >>= proceed preferred current).run.Ends (serve backend) p t r p')
    (hlook : ∀ {t r p'}, look.run.Ends (serve backend) p t r p' →
      Looked p.memory r p'.memory ∧ Aside p t p') : Moves backend preferred p t p' := by
  rcases Program.ends_bind_run.1 h with ⟨t₁, t₂, next, p₁, rfl, hnext, hrest⟩ | ⟨e, he, rfl⟩
  · obtain ⟨hlooked, ha⟩ := hlook hnext
    exact ends_proceed hnext.served ha hlooked hrest
  · obtain ⟨hlooked, ha⟩ := hlook he
    exact Or.inl (.failed ha hlooked)

/-- A tick reads the memory and makes one move or two. -/
theorem ends_tick {settings : Settings} {preferred : Option String} {r : Except Error State}
    (h : (tick settings preferred).run.Ends (serve backend) p t r p') :
    ∃ u, t = ⟨.readMemory, p.memory⟩ :: u ∧ Moves backend preferred p u p' := by
  obtain ⟨t₁, t₂, memory, p₁, rfl, hread, hrest⟩ := Program.ends_bind_lift.1 h
  obtain ⟨rfl, hm, rfl⟩ := Program.ends_request.1 hread
  obtain rfl : memory = p₁.memory := hm
  refine ⟨t₂, rfl, ?_⟩
  dsimp only at hrest
  split at hrest
  · next hstate => exact ends_look hrest fun hlook => ends_whenIdle hlook hstate
  · next hstate =>
    obtain ⟨t₃, _, p₂, next, rfl, hmove, hdone⟩ := ends_chosen hrest hstate
    -- The state was `playNextSong` already, so no second track is chosen in this tick.
    rw [if_neg fun hn => hn.2 hstate] at hdone
    obtain ⟨rfl, rfl, rfl⟩ := Program.ends_pure.1 hdone
    rw [List.append_nil]
    exact Or.inl hmove
  · next hstate => exact ends_look hrest fun hlook => ends_whenCheckPlaying hlook hstate
  · next hstate => exact ends_look hrest fun hlook => ends_whenPlaying hlook hstate

end Jukebox.Party
