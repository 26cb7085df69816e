import Jukebox.Proofs.Queue.Conservation
import Jukebox.Proofs.Queue.Detour

/-!
# What an operation does to the queues

Seven operations have five effects: nothing happens, an entry comes, goes, changes its queue, or is voted
for (`effect_apply`).  With each effect but the first goes the change that observers are told of.  What
every effect keeps is thus kept by every operation, and by all of them in a row (`performAll_invariant`).
-/

namespace Jukebox.Queue.Store

variable {s : Store} {kind : Kind} {e : Entry} {id : TrackId}

/-- What becomes of the queues of `s`, and what observers are told. -/
inductive Effect (s : Store) : Option Change → Store → Prop
  /-- Both queues stay as they are. -/
  | silent {s' : Store} (hsame : ∀ kind, s'.queue kind = s.queue kind) : Effect s none s'
  /-- An entry of a new name is put in. -/
  | came {trigger : Trigger} {s₁ : Store} {kind : Kind} {e : Entry}
      (htrigger : trigger = .enqueued ∨ trigger = .restored)
      (hsame : ∀ kind, s₁.queue kind = s.queue kind) (habsent : ∀ x ∈ s.entries, x.id ≠ e.id) :
      Effect s (some ⟨trigger, e.id, kind⟩) (s₁.insert kind e)
  /-- An entry is taken out. -/
  | went {trigger : Trigger} {kind : Kind} {e : Entry} (htrigger : trigger = .removed ∨ trigger = .popped)
      (he : e ∈ s.queue kind) : Effect s (some ⟨trigger, e.id, kind⟩) (s.erase kind e.id)
  /-- An entry is taken out of one queue and put into the other one with another number. -/
  | moved {s₁ : Store} {kind target : Kind} {e : Entry} {n : UInt64} (hne : kind ≠ target)
      (he : e ∈ s.queue kind) (hsame : ∀ other, s₁.queue other = (s.erase kind e.id).queue other) :
      Effect s (some ⟨.moved, e.id, target⟩) (s₁.insert target { e with sequence := n })
  /-- A vote for an entry is set or withdrawn. -/
  | voted {kind : Kind} {e : Entry} {voter : SessionId} {up : Bool} (he : e ∈ s.queue kind)
      (hchanges : e.votes.changes voter up = true) :
      Effect s (some ⟨.voted, e.id, kind⟩) (s.update kind e.id (·.setVote voter up))

/-- Every operation has one of the effects, where no name occurs twice. -/
theorem effect_apply (hs : (s.entries.map Entry.id).Nodup) (op : Operation) :
    Effect s (s.apply op).change (s.apply op).store := by
  have hnothing : Effect s none s := .silent fun _ => rfl
  cases op with
  | enqueue track kind =>
    show Effect s (s.enqueue track kind).change (s.enqueue track kind).store
    rcases s.enqueue_cases track kind with ⟨_, _, -, -, ho⟩ | ⟨hne, ho⟩ <;> rw [ho]
    · exact hnothing
    · exact .came (e := .new track s.nextSequence) (.inl rfl) s.queue_advance hne
  | vote id voter up =>
    show Effect s (s.vote id voter up).change (s.vote id voter up).store
    rcases s.vote_cases id voter up with ⟨-, ho⟩ | ⟨kind, e, he, rfl, ⟨-, ho⟩ | ⟨hchanges, ho⟩⟩ <;> rw [ho]
    · exact hnothing
    · exact hnothing
    · exact .voted he hchanges
  | remove id =>
    show Effect s (s.remove id).change (s.remove id).store
    rcases s.remove_cases id with ⟨-, ho⟩ | ⟨kind, e, he, rfl, ho⟩ <;> rw [ho]
    · exact hnothing
    · exact .went (.inl rfl) he
  | move id target =>
    show Effect s (s.move id target).change (s.move id target).store
    rcases s.move_cases id target with ⟨-, ho⟩ | ⟨kind, e, he, rfl, ⟨-, ho⟩ | ⟨hne, ho⟩⟩ <;> rw [ho]
    · exact hnothing
    · exact hnothing
    · exact .moved hne he (s.erase kind e.id).queue_advance
  | pop =>
    show Effect s s.pop.change s.pop.store
    rcases s.pop_cases with ⟨-, ho⟩ | ⟨kind, e, rest, hq, -, ho⟩ <;> rw [ho]
    · exact hnothing
    · rw [← erase_head hs hq]
      exact .went (.inr rfl) (by rw [hq]; exact List.mem_cons_self)
  | restore popped =>
    show Effect s (s.restore popped).change (s.restore popped).store
    rcases s.restore_cases popped with ⟨-, ho⟩ | ⟨hne, ho⟩ <;> rw [ho]
    · exact hnothing
    · exact .came (.inr rfl) (fun _ => rfl) hne
  | setNowPlaying playback => exact .silent fun kind => by cases kind <;> rfl

/-! ## Operations that are refused -/

/-- The answer says that the operation could not be performed. -/
def Operation.Refused : (op : Operation) → op.Reply → Prop
  | .enqueue .., r | .vote .., r | .move .., r => ∃ e, (r : Except Error Unit) = .error e
  | .remove _, r => ∃ e, (r : Except Error Entry) = .error e
  | .pop, r => (r : Option Popped) = none
  | .restore _, r => (r : Bool) = false
  | .setNowPlaying _, _ => False

/-- What is refused changes nothing. -/
theorem apply_refused {op : Operation} (h : op.Refused (s.apply op).reply) :
    (s.apply op).change = none ∧ (s.apply op).store = s := by
  cases op with
  | enqueue track kind =>
    change ∃ e, (s.enqueue track kind).reply = .error e at h
    show (s.enqueue track kind).change = none ∧ (s.enqueue track kind).store = s
    rcases s.enqueue_cases track kind with ⟨_, _, -, -, ho⟩ | ⟨-, ho⟩ <;> rw [ho] at h ⊢
    · exact ⟨rfl, rfl⟩
    · nomatch h
  | vote id voter up =>
    change ∃ e, (s.vote id voter up).reply = .error e at h
    show (s.vote id voter up).change = none ∧ (s.vote id voter up).store = s
    rcases s.vote_cases id voter up with ⟨-, ho⟩ | ⟨_, _, -, -, ⟨-, ho⟩ | ⟨-, ho⟩⟩ <;> rw [ho] at h ⊢
    · exact ⟨rfl, rfl⟩
    · nomatch h
    · nomatch h
  | remove id =>
    change ∃ e, (s.remove id).reply = .error e at h
    show (s.remove id).change = none ∧ (s.remove id).store = s
    rcases s.remove_cases id with ⟨-, ho⟩ | ⟨_, _, -, -, ho⟩ <;> rw [ho] at h ⊢
    · exact ⟨rfl, rfl⟩
    · nomatch h
  | move id target =>
    change ∃ e, (s.move id target).reply = .error e at h
    show (s.move id target).change = none ∧ (s.move id target).store = s
    rcases s.move_cases id target with ⟨-, ho⟩ | ⟨_, _, -, -, ⟨-, ho⟩ | ⟨-, ho⟩⟩ <;> rw [ho] at h ⊢
    · exact ⟨rfl, rfl⟩
    · nomatch h
    · nomatch h
  | pop =>
    have ho := pop_eq_none h
    show s.pop.change = none ∧ s.pop.store = s
    rw [ho]
    exact ⟨rfl, rfl⟩
  | restore popped =>
    change (s.restore popped).reply = false at h
    show (s.restore popped).change = none ∧ (s.restore popped).store = s
    rcases s.restore_cases popped with ⟨-, ho⟩ | ⟨-, ho⟩ <;> rw [ho] at h ⊢
    · exact ⟨rfl, rfl⟩
    · nomatch h
  | setNowPlaying playback => exact absurd h id

/-! ## Where entries are afterwards -/

theorem mem_queue_erase {other : Kind} {x : Entry} :
    x ∈ (s.erase kind id).queue other ↔ x ∈ s.queue other ∧ (other = kind → x.id ≠ id) := by
  unfold erase
  by_cases hk : other = kind
  · subst hk
    rw [queue_setQueue, List.mem_filter]
    simp
  · rw [queue_setQueue_of_ne _ _ hk]
    simp [hk]

theorem mem_queue_update {f : Entry → Entry} (he : e ∈ s.queue kind) :
    f e ∈ (s.update kind e.id f).queue kind := by
  unfold update
  rw [queue_setQueue, Entry.mem_rank]
  exact List.mem_map.2 ⟨e, he, by simp⟩

theorem track_of_mem_update {f : Entry → Entry} (hf : ∀ x, (f x).track = x.track) {other : Kind} {x : Entry}
    (hx : x ∈ (s.update kind id f).queue other) : ∃ y ∈ s.queue other, y.track = x.track := by
  unfold update at hx
  by_cases hk : other = kind
  · subst hk
    rw [queue_setQueue, Entry.mem_rank, List.mem_map] at hx
    obtain ⟨y, hy, rfl⟩ := hx
    refine ⟨y, hy, ?_⟩
    split
    · exact (hf y).symm
    · rfl
  · rw [queue_setQueue_of_ne _ _ hk] at hx
    exact ⟨x, hx, rfl⟩

/-- The tracks that an operation puts in. -/
def Operation.tracks : Operation → List Track
  | .enqueue track _ => [track]
  | .restore popped => [popped.entry.track]
  | _ => []

/-- A track that waits after an operation waited before, or was put in. -/
theorem track_of_mem_apply (op : Operation) (he : e ∈ (s.apply op).store.entries) :
    (∃ x ∈ s.entries, x.track = e.track) ∨ e.track ∈ op.tracks := by
  have hkept : ∀ {other : Kind}, e ∈ s.queue other →
      (∃ x ∈ s.entries, x.track = e.track) ∨ e.track ∈ op.tracks :=
    fun hx => Or.inl ⟨e, mem_entries.2 ⟨_, hx⟩, rfl⟩
  obtain ⟨other, he⟩ := mem_entries.1 he
  cases op with
  | enqueue track kind =>
    change e ∈ (s.enqueue track kind).store.queue other at he
    rcases s.enqueue_cases track kind with ⟨_, _, -, -, ho⟩ | ⟨-, ho⟩ <;> rw [ho] at he
    · exact hkept he
    · rcases mem_queue_insert.1 he with hold | ⟨-, rfl⟩
      · exact hkept ((queue_advance s other) ▸ hold)
      · exact Or.inr List.mem_cons_self
  | vote id voter up =>
    change e ∈ (s.vote id voter up).store.queue other at he
    rcases s.vote_cases id voter up with ⟨-, ho⟩ | ⟨kind, _, -, -, ⟨-, ho⟩ | ⟨-, ho⟩⟩ <;> rw [ho] at he
    · exact hkept he
    · exact hkept he
    · obtain ⟨x, hx, htrack⟩ := track_of_mem_update (f := (·.setVote voter up)) (fun _ => rfl) he
      exact Or.inl ⟨x, mem_entries.2 ⟨other, hx⟩, htrack⟩
  | remove id =>
    change e ∈ (s.remove id).store.queue other at he
    rcases s.remove_cases id with ⟨-, ho⟩ | ⟨_, _, -, -, ho⟩ <;> rw [ho] at he
    · exact hkept he
    · exact hkept (mem_queue_erase.1 he).1
  | move id target =>
    change e ∈ (s.move id target).store.queue other at he
    rcases s.move_cases id target with ⟨-, ho⟩ | ⟨kind, x, hx, -, ⟨-, ho⟩ | ⟨-, ho⟩⟩ <;> rw [ho] at he
    · exact hkept he
    · exact hkept he
    · rcases mem_queue_insert.1 he with hold | ⟨-, rfl⟩
      · rw [queue_advance] at hold
        exact hkept (mem_queue_erase.1 hold).1
      · exact Or.inl ⟨x, mem_entries.2 ⟨kind, hx⟩, rfl⟩
  | pop =>
    change e ∈ s.pop.store.queue other at he
    rcases s.pop_cases with ⟨-, ho⟩ | ⟨kind, first, rest, -, hentries, ho⟩ <;> rw [ho] at he
    · exact hkept he
    · refine Or.inl ⟨e, ?_, rfl⟩
      rw [hentries]
      exact List.mem_cons_of_mem _ (mem_entries.2 ⟨other, he⟩)
  | restore popped =>
    change e ∈ (s.restore popped).store.queue other at he
    rcases s.restore_cases popped with ⟨-, ho⟩ | ⟨-, ho⟩ <;> rw [ho] at he
    · exact hkept he
    · rcases mem_queue_insert.1 he with hold | ⟨-, rfl⟩
      · exact hkept hold
      · exact Or.inr List.mem_cons_self
  | setNowPlaying playback =>
    cases other with
    | normal => exact Or.inl ⟨e, mem_entries.2 ⟨.normal, he⟩, rfl⟩
    | admin => exact Or.inl ⟨e, mem_entries.2 ⟨.admin, he⟩, rfl⟩

/-! ## Operations in a row -/

/-- No name occurs twice afterwards. -/
theorem unique_apply (hs : (s.entries.map Entry.id).Nodup) (op : Operation) :
    ((s.apply op).store.entries.map Entry.id).Nodup :=
  (balanced_serve hs op).unique

theorem unique_performAll (hs : (s.entries.map Entry.id).Nodup) (ops : List Operation) :
    ((s.performAll ops).2.entries.map Entry.id).Nodup := by
  induction ops generalizing s with
  | nil => exact hs
  | cons op ops ih => exact ih (unique_apply hs op)

/-- What every effect keeps holds after all operations, where no name occurs twice. -/
theorem performAll_invariant (inv : Store → Prop)
    (heffect : ∀ s change s', (s.entries.map Entry.id).Nodup → Effect s change s' → inv s → inv s')
    (hs : (s.entries.map Entry.id).Nodup) (hinv : inv s) (ops : List Operation) :
    inv (s.performAll ops).2 := by
  induction ops generalizing s with
  | nil => exact hinv
  | cons op ops ih => exact ih (unique_apply hs op) (heffect _ _ _ hs (effect_apply hs op) hinv)

/-- What any operations make of empty queues. -/
theorem unique_performAll_empty (ops : List Operation) :
    ((Store.empty.performAll ops).2.entries.map Entry.id).Nodup :=
  unique_performAll (s := .empty) List.nodup_nil ops

end Jukebox.Queue.Store
