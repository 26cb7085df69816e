import Jukebox.Proofs.Party.Deeds
import Jukebox.Proofs.Party.Moves

/-!
# The scheduler's protocol

What observers are told of the scheduler, from the beginning of a party and whatever happens at it:

* The changes of state are a `Path` of six kinds of edges from `idle` to the present state.
* A track is started directly after it was popped and directly before `playNextSong` becomes
  `checkPlaying`, and that change has such a track (`Orderly`).
* In `checkPlaying` and in `playing`, the requested track is the one that was started last; in `playing`,
  the playback last polled is of that track.

The `Protocol` joins these with what the scheduler remembers.  A move keeps it (`Protocol.move`), and so
does everything else that happens (`Protocol.plain`), so it holds after any deeds (`Protocol.deeds`).
-/

namespace Jukebox.Party

open Scheduler (State Memory)

/-! ## The states -/

/-- From one state to another. -/
inductive Edge : State → State → Prop
  | wake : Edge .idle .playNextSong
  | hand : Edge .playNextSong .checkPlaying
  | drain : Edge .playNextSong .idle
  | confirm : Edge .checkPlaying .playing
  | giveUp : Edge .checkPlaying .idle
  | finish : Edge .playing .playNextSong

/-- Changes of state that follow from each other. -/
inductive Path : State → List (State × State) → State → Prop
  | nil (s : State) : Path s [] s
  | snoc {s old new : State} {changes : List (State × State)} :
      Path s changes old → Edge old new → Path s (changes ++ [(old, new)]) new

/-- The change of state that is told. -/
def changeIn : Occurrence → Option (State × State)
  | .schedulerStateChanged old new => some (old, new)
  | _ => none

/-- The track whose start is told, with its title and its artist. -/
def startIn : Occurrence → Option (TrackId × String × String)
  | .trackStarted id title artist => some (id, title, artist)
  | _ => none

/-- The changes of state in a log. -/
def stateChanges (log : List Occurrence) : List (State × State) :=
  log.filterMap changeIn

/-- The track that was started last. -/
def lastStart (log : List Occurrence) : Option (TrackId × String × String) :=
  (log.filterMap startIn).getLast?

theorem stateChanges_append (log new : List Occurrence) :
    stateChanges (log ++ new) = stateChanges log ++ stateChanges new :=
  List.filterMap_append

theorem lastStart_append (log new : List Occurrence) :
    lastStart (log ++ new) = (lastStart new).or (lastStart log) := by
  unfold lastStart
  rw [List.filterMap_append, List.getLast?_append]

/-! ## The order of events -/

/-- The track was started, and is to be confirmed. -/
def handedOver : Occurrence :=
  .schedulerStateChanged .playNextSong .checkPlaying

/-- An event that has to do with no start of a track. -/
def Apart (o : Occurrence) : Prop :=
  startIn o = none ∧ o ≠ handedOver

/-- Each start of a track has the events that belong to it. -/
inductive Orderly : List Occurrence → Prop
  | nil : Orderly []
  | apart {log : List Occurrence} {o : Occurrence} :
      Orderly log → Apart o → Orderly (log ++ [o])
  | start {log : List Occurrence} {id : TrackId} {title artist : String} {queue : Queue.Kind} :
      Orderly log → Orderly (log ++
        [.queueChanged ⟨.popped, id, queue⟩, .trackStarted id title artist, handedOver])

theorem Orderly.append {log new : List Occurrence} (h : Orderly log) (hnew : ∀ o ∈ new, Apart o) :
    Orderly (log ++ new) := by
  induction new generalizing log with
  | nil =>
    rw [List.append_nil]
    exact h
  | cons o new ih =>
    obtain ⟨ho, hnew⟩ := List.forall_mem_cons.1 hnew
    have happ := ih (h.apart ho) hnew
    rwa [List.append_assoc] at happ

/-- How an event of an orderly log stands between those before and those after it. -/
inductive Placed : List Occurrence → Occurrence → List Occurrence → Prop
  | apart {before after : List Occurrence} {o : Occurrence} : Apart o → Placed before o after
  | started {front back : List Occurrence} {id : TrackId} {title artist : String}
      {queue : Queue.Kind} : Placed (front ++ [.queueChanged ⟨.popped, id, queue⟩])
        (.trackStarted id title artist) (handedOver :: back)
  | handed {front back : List Occurrence} {id : TrackId} {title artist : String} :
      Placed (front ++ [.trackStarted id title artist]) handedOver back

theorem Placed.append {before after : List Occurrence} {o : Occurrence} (h : Placed before o after)
    (more : List Occurrence) : Placed before o (after ++ more) := by
  cases h with
  | apart ho => exact .apart ho
  | started => exact .started
  | handed => exact .handed

theorem Orderly.placed {log before after : List Occurrence} {o : Occurrence} (h : Orderly log)
    (hlog : log = before ++ o :: after) : Placed before o after := by
  induction h generalizing after with
  | nil => simp at hlog
  | apart _ ho ih =>
    rcases concat_eq_append_cons hlog with ⟨-, rfl, -⟩ | ⟨back, rfl, hback⟩
    · exact .apart ho
    · exact (ih hback).append _
  | @start log id title artist queue _ ih =>
    -- The event is the third of the three, or the second, or the first, or was there before.
    have hthree : ((log ++ [.queueChanged ⟨.popped, id, queue⟩]) ++
        [.trackStarted id title artist]) ++ [handedOver] = before ++ o :: after := by
      rw [← hlog, List.append_assoc, List.append_assoc]
      rfl
    rcases concat_eq_append_cons hthree with ⟨-, rfl, rfl⟩ | ⟨back₁, rfl, htwo⟩
    · exact .handed
    rcases concat_eq_append_cons htwo with ⟨rfl, rfl, rfl⟩ | ⟨back₂, rfl, hone⟩
    · exact .started
    rcases concat_eq_append_cons hone with ⟨-, rfl, -⟩ | ⟨back₃, rfl, hback⟩
    · exact .apart ⟨rfl, nofun⟩
    · exact (((ih hback).append _).append _).append _

/-- A track is started between being popped and being handed over. -/
theorem Orderly.neighbours {log before after : List Occurrence} {id : TrackId} {title artist : String}
    (h : Orderly log) (hlog : log = before ++ .trackStarted id title artist :: after) :
    (∃ front queue, before = front ++ [.queueChanged ⟨.popped, id, queue⟩]) ∧
      ∃ back, after = handedOver :: back := by
  cases h.placed hlog with
  | apart ho => exact nomatch ho.1
  | started => exact ⟨⟨_, _, rfl⟩, _, rfl⟩

/-- What is handed over was started directly before. -/
theorem Orderly.started_before {log before after : List Occurrence} (h : Orderly log)
    (hlog : log = before ++ handedOver :: after) :
    ∃ front id title artist, before = front ++ [.trackStarted id title artist] := by
  cases h.placed hlog with
  | apart ho => exact absurd rfl ho.2
  | handed => exact ⟨_, _, _, _, rfl⟩

/-! ## The protocol -/

/-- What holds of a log and of what the scheduler remembers. -/
structure Protocol (log : List Occurrence) (m : Memory) : Prop where
  path : Path .idle (stateChanges log) m.state
  orderly : Orderly log
  /-- The requested track is the one that was started last. -/
  requested : m.state = .checkPlaying ∨ m.state = .playing → ∃ track,
    m.requested = some track ∧ lastStart log = some (track.id, track.title, track.artist)
  /-- The playback last polled is of the requested track. -/
  reported : m.state = .playing → ∃ track playback,
    m.requested = some track ∧ m.lastPlayback = some playback ∧ playback.id = track.id

namespace Protocol

variable {log new : List Occurrence} {m m' : Memory}

theorem start : Protocol [] .new where
  path := .nil .idle
  orderly := .nil
  requested := by rintro (h | h) <;> cases h
  reported h := by cases h

/-- News that are not of the scheduler make no difference. -/
theorem plain (h : Protocol log m) (hnew : ∀ o ∈ new, Plain o) : Protocol (log ++ new) m := by
  have hchange : stateChanges new = [] := by
    unfold stateChanges
    rw [List.filterMap_eq_nil_iff]
    intro o ho
    have hplain := hnew o ho
    cases o with
    | queueChanged | volumeChanged | trackStarted => rfl
    | schedulerStateChanged => exact hplain.elim
  have hapart : ∀ o ∈ new, Apart o := by
    intro o ho
    have hplain := hnew o ho
    cases o with
    | queueChanged | volumeChanged => exact ⟨rfl, nofun⟩
    | trackStarted | schedulerStateChanged => exact hplain.elim
  have hstart : lastStart new = none := by
    unfold lastStart
    rw [List.getLast?_eq_none_iff, List.filterMap_eq_nil_iff]
    exact fun o ho => (hapart o ho).1
  refine ⟨?_, h.orderly.append hapart, ?_, h.reported⟩
  · rw [stateChanges_append, hchange, List.append_nil]
    exact h.path
  · rw [lastStart_append, hstart, Option.none_or]
    exact h.requested

/-- The scheduler may remember other things in the same state. -/
theorem stay (h : Protocol log m) (hstate : m'.state = m.state)
    (hrequested : m'.requested = m.requested)
    (hreported : m.state = .playing → m'.lastPlayback = m.lastPlayback ∨
      ∃ track playback, m.requested = some track ∧ m'.lastPlayback = some playback ∧
        playback.id = track.id) : Protocol log m' := by
  refine ⟨?_, h.orderly, ?_, ?_⟩
  · rw [hstate]
    exact h.path
  · rw [hstate, hrequested]
    exact h.requested
  · rw [hstate, hrequested]
    intro hs
    rcases hreported hs with heq | hnew
    · rw [heq]
      exact h.reported hs
    · exact hnew

/-- Where no track is followed, the playback last polled makes no difference. -/
theorem stay_of_ne (h : Protocol log m) (hne : m.state ≠ .playing) (hstate : m'.state = m.state)
    (hrequested : m'.requested = m.requested) : Protocol log m' :=
  h.stay hstate hrequested fun hs => absurd hs hne

/-- A change of state other than handing a track over. -/
theorem change {old next : State} (h : Protocol log m) (hold : m.state = old)
    (hedge : Edge old next) (hstate : m'.state = next) (hne : next ≠ .checkPlaying)
    (hplaying : next = .playing → old = .checkPlaying ∧ m'.requested = m.requested ∧
      ∃ track playback, m.requested = some track ∧ m'.lastPlayback = some playback ∧
        playback.id = track.id) :
    Protocol (log ++ [.schedulerStateChanged old next]) m' := by
  subst hstate hold
  refine ⟨?_, h.orderly.apart ⟨rfl, ?_⟩, ?_, ?_⟩
  · rw [stateChanges_append]
    exact h.path.snoc hedge
  · intro heq
    exact hne (Occurrence.schedulerStateChanged.inj heq).2
  · rintro (hs | hs)
    · exact absurd hs hne
    · obtain ⟨hcheck, hrequested, -⟩ := hplaying hs
      rw [lastStart_append, hrequested]
      exact h.requested (Or.inl hcheck)
  · intro hs
    obtain ⟨-, hrequested, hreported⟩ := hplaying hs
    rw [hrequested]
    exact hreported

/-- A track is popped, started and handed over. -/
theorem hand {track : Track} {queue : Queue.Kind} (h : Protocol log m)
    (hstate : m.state = .playNextSong) (hstate' : m'.state = .checkPlaying)
    (hrequested : m'.requested = some track) :
    Protocol (log ++ [.queueChanged ⟨.popped, track.id, queue⟩,
      .trackStarted track.id track.title track.artist, handedOver]) m' := by
  refine ⟨?_, h.orderly.start, fun _ => ⟨track, hrequested, ?_⟩, ?_⟩
  · have hpath := h.path
    rw [hstate] at hpath
    rw [stateChanges_append, hstate']
    exact hpath.snoc .hand
  · rw [lastStart_append]
    rfl
  · rw [hstate']
    exact nofun

/-! ### The moves of the scheduler -/

theorem looked_error {e : Error} (h : Protocol log m) (hl : Looked m (.error e) m') :
    Protocol log m' := by
  cases hl
  exact h.stay rfl rfl fun _ => Or.inl rfl

theorem looked {next : State} (h : Protocol log m) (hl : Looked m (.ok next) m') :
    Protocol (log ++ if m'.state = next then [] else [.schedulerStateChanged m'.state next])
      { m' with state := next } := by
  have hstate : m'.state = m.state := by cases hl <;> rfl
  rw [hstate]
  cases hl with
  | waiting hs hnext playback now =>
    rcases hnext with rfl | rfl
    · rw [if_pos hs, List.append_nil]
      exact h.stay_of_ne (by rw [hs]; exact nofun) hs.symm rfl
    · rw [hs, if_neg nofun]
      exact h.change hs .wake rfl nofun nofun
  | confirmed hs hrequested hid now =>
    rw [hs, if_neg nofun]
    exact h.change hs .confirm rfl nofun fun _ => ⟨rfl, rfl, _, _, hrequested, rfl, hid⟩
  | missing hs playback now attempts =>
    rw [if_pos hs, List.append_nil]
    exact h.stay_of_ne (by rw [hs]; exact nofun) hs.symm rfl
  | lost hs playback now =>
    rw [hs, if_neg nofun]
    exact h.change hs .giveUp rfl nofun nofun
  | running hs hrequested hid now progress =>
    rw [if_pos hs, List.append_nil]
    exact h.stay hs.symm rfl fun _ => Or.inr ⟨_, _, hrequested, rfl, hid⟩
  | finished hs playback now progress =>
    rw [hs, if_neg nofun]
    exact h.change hs .finish rfl nofun nofun

section
variable {σ : Type} {backend : Backend σ} {preferred : Option String} {p p₁ p' : Party σ}
  {t t₁ t₂ : List (Exchange interface)}

/-- After a failure the scheduler tries again. -/
theorem retry (h : Protocol log p.memory) (hs : p.memory.state = .playNextSong)
    (htold : ∀ o ∈ told t₁, Plain o) (hmemory : p₁.memory = p.memory)
    (hentered : Entered p₁ .playNextSong t₂ p') : Protocol (log ++ told (t₁ ++ t₂)) p'.memory := by
  rw [told_append, hentered.told, hentered.memory, hmemory, if_pos hs, List.append_nil]
  exact (h.plain htold).stay_of_ne (by rw [hs]; exact nofun) hs.symm rfl

theorem chosen {r : Except Error (Option Track)} (h : Protocol log p.memory)
    (hs : p.memory.state = .playNextSong) (hselected : Selected backend preferred p t₁ p₁ r)
    (hentered : Entered p₁ (following r) t₂ p') : Protocol (log ++ told (t₁ ++ t₂)) p'.memory := by
  cases hselected with
  | nothing _ htold _ _ hmemory =>
    rw [told_append, htold, hentered.told, hentered.memory, hmemory, hs, if_neg nofun]
    exact h.change hs .drain rfl nofun nofun
  | @handed popped _ _ htold _ _ hmemory =>
    have hstate : p₁.memory.state = .playNextSong := by
      rw [hmemory]
      exact hs
    rw [told_append, htold, hentered.told, hentered.memory, hstate, if_neg nofun]
    refine h.hand hs rfl ?_
    rw [hmemory]
    rfl
  | putBack _ htold _ _ hmemory =>
    refine h.retry hs ?_ hmemory hentered
    rw [htold]
    intro o ho
    rcases List.mem_cons.1 ho with rfl | ho
    · trivial
    · obtain ⟨change, -, rfl⟩ := List.mem_map.1 ho
      trivial
  | givenUp _ _ _ htold _ _ hmemory =>
    refine h.retry hs ?_ hmemory hentered
    rw [htold]
    intro o ho
    obtain rfl := List.mem_singleton.1 ho
    trivial

/-- One move of the scheduler keeps the protocol. -/
theorem move (h : Protocol log p.memory) (hmove : Move backend preferred p t p') :
    Protocol (log ++ told t) p'.memory := by
  cases hmove with
  | failed ha hl =>
    rw [ha.told, List.append_nil]
    exact h.looked_error hl
  | looked ha hl hentered =>
    rw [told_append, ha.told, List.nil_append, hentered.told, hentered.memory]
    exact h.looked hl
  | chosen hs hselected hentered => exact h.chosen hs hselected hentered

theorem moves (h : Protocol log p.memory) (hmoves : Moves backend preferred p t p') :
    Protocol (log ++ told t) p'.memory := by
  rcases hmoves with hmove | ⟨t₁, t₂, p₁, rfl, -, hfirst, hsecond⟩
  · exact h.move hmove
  · rw [told_append, ← List.append_assoc]
    exact (h.move hfirst).move hsecond

/-- Whatever happens keeps the protocol. -/
theorem deed (h : Protocol log p.memory) (d : Deed σ) :
    Protocol (log ++ told (d.exchanges backend p)) (d.after backend p).memory := by
  by_cases hd : d = .tick
  · subst hd
    obtain ⟨r, htick⟩ := ends_deed_tick backend p
    obtain ⟨u, hu, hmoves⟩ := ends_tick htick
    rw [hu]
    show Protocol (log ++ told u) _
    exact h.moves hmoves
  · obtain ⟨hmemory, hplain⟩ := after_unnoticed backend p hd
    rw [hmemory]
    exact h.plain hplain

theorem deeds (h : Protocol log p.memory) (ds : List (Deed σ)) :
    Protocol (log ++ told (exchangesAll backend p ds)) (afterAll backend p ds).memory := by
  induction ds generalizing log p with
  | nil =>
    unfold exchangesAll
    rw [told_nil, List.append_nil]
    exact h
  | cons d ds ih =>
    have hnext : Protocol (log ++ told (d.exchanges backend p)) (d.after backend p).memory := h.deed d
    unfold exchangesAll
    rw [told_append, ← List.append_assoc]
    exact ih hnext

end
end Protocol

/-- **The scheduler's protocol.**  Of everything observers were told since the party began, whatever
happened: the changes of state lead from `idle` to the present one over the six edges; a track was
started directly after it was popped and directly before it was handed over, and for each handing over
there is such a track; the requested track is the one started last while the scheduler awaits or follows
it, and while it follows it, the playback last polled is of that track. -/
theorem scheduler_protocol {σ : Type} (backend : Backend σ) (rules : Rules)
    (scheduling : Scheduler.Settings) (sessionNames : Nat → SessionId) (service : σ)
    (time : Timestamp) (ds : List (Deed σ)) :
    let start := Party.new rules scheduling sessionNames service time
    let log := told (exchangesAll backend start ds)
    let m := (afterAll backend start ds).memory
    Path .idle (stateChanges log) m.state ∧
    (∀ before after id title artist, log = before ++ .trackStarted id title artist :: after →
      (∃ front queue, before = front ++ [.queueChanged ⟨.popped, id, queue⟩]) ∧
        ∃ back, after = .schedulerStateChanged .playNextSong .checkPlaying :: back) ∧
    (∀ before after, log = before ++ .schedulerStateChanged .playNextSong .checkPlaying :: after →
      ∃ front id title artist, before = front ++ [.trackStarted id title artist]) ∧
    (m.state = .checkPlaying ∨ m.state = .playing → ∃ track, m.requested = some track ∧
      lastStart log = some (track.id, track.title, track.artist)) ∧
    (m.state = .playing → m.isInconsistent = false ∧ ∃ track playback,
      m.requested = some track ∧ m.lastPlayback = some playback ∧ playback.id = track.id) := by
  intro start log m
  have hstart : Protocol [] start.memory := .start
  have h : Protocol ([] ++ log) m := hstart.deeds ds
  rw [List.nil_append] at h
  refine ⟨h.path, fun before after id title artist hlog => h.orderly.neighbours hlog,
    fun before after hlog => h.orderly.started_before hlog, h.requested, fun hs => ?_⟩
  obtain ⟨track, playback, hrequested, hlast, hid⟩ := h.reported hs
  refine ⟨?_, track, playback, hrequested, hlast, hid⟩
  unfold Memory.isInconsistent
  rw [hrequested, hlast]
  simp [hid]

end Jukebox.Party
