import Jukebox.Proofs.Queue.Effects
import Mathlib.Data.Finset.Basic

/-!
# What observers know of the queues

An observer who knows which tracks wait in which queue can keep up by the changes alone.  A `Replica` is
what such an observer knows, and `Replica.follow` is what a change makes of it.

    the replica of a store follows every effect                     (follow_effect)
    a change is told of exactly if a track came or went, or has
    other voters than before                                        (differs_of_effect)
-/

namespace Jukebox.Queue

/-- The names of the tracks in each queue. -/
def Replica :=
  Kind → Finset TrackId

namespace Replica

/-- What is to be known of a store. -/
def ofStore (s : Store) : Replica :=
  fun kind => ((s.queue kind).map Entry.id).toFinset

/-- A track is put into a queue. -/
def put (r : Replica) (id : TrackId) (kind : Kind) : Replica :=
  fun other => if other = kind then insert id (r other) else r other

/-- A track is deleted, wherever it is. -/
def drop (r : Replica) (id : TrackId) : Replica :=
  fun kind => (r kind).erase id

/-- What an observer knows after a change. -/
def follow (r : Replica) (change : Change) : Replica :=
  match change.trigger with
  | .enqueued | .restored => r.put change.track change.queue
  | .moved => (r.drop change.track).put change.track change.queue
  | .removed | .popped => r.drop change.track
  | .voted => r

variable {r : Replica} {id x : TrackId} {kind other : Kind}

theorem mem_put : x ∈ r.put id kind other ↔ other = kind ∧ x = id ∨ x ∈ r other := by
  unfold put
  split
  · next h => simp [h]
  · next h => simp [h]

theorem mem_drop : x ∈ r.drop id other ↔ x ≠ id ∧ x ∈ r other :=
  Finset.mem_erase

theorem mem_ofStore {s : Store} : x ∈ ofStore s kind ↔ ∃ e ∈ s.queue kind, e.id = x := by
  unfold ofStore
  rw [List.mem_toFinset, List.mem_map]

theorem ofStore_congr {s s' : Store} (h : ∀ kind, s'.queue kind = s.queue kind) :
    ofStore s' = ofStore s := by
  funext kind
  unfold ofStore
  rw [h kind]

end Replica

namespace Store

variable {s s' : Store} {kind : Kind} {e : Entry} {id : TrackId} {change : Option Change}

/-! ## Following the changes -/

theorem ofStore_insert (s : Store) (kind : Kind) (e : Entry) :
    Replica.ofStore (s.insert kind e) = (Replica.ofStore s).put e.id kind := by
  funext other
  ext x
  rw [Replica.mem_put, Replica.mem_ofStore, Replica.mem_ofStore]
  constructor
  · rintro ⟨y, hy, rfl⟩
    rcases mem_queue_insert.1 hy with hold | ⟨hkind, rfl⟩
    · exact Or.inr ⟨y, hold, rfl⟩
    · exact Or.inl ⟨hkind, rfl⟩
  · rintro (⟨hkind, rfl⟩ | ⟨y, hy, rfl⟩)
    · exact ⟨e, mem_queue_insert.2 (Or.inr ⟨hkind, rfl⟩), rfl⟩
    · exact ⟨y, mem_queue_insert.2 (Or.inl hy), rfl⟩

theorem ofStore_erase (hs : (s.entries.map Entry.id).Nodup) (he : e ∈ s.queue kind) :
    Replica.ofStore (s.erase kind e.id) = (Replica.ofStore s).drop e.id := by
  funext other
  ext x
  rw [Replica.mem_drop, Replica.mem_ofStore, Replica.mem_ofStore]
  constructor
  · rintro ⟨y, hy, rfl⟩
    obtain ⟨hold, hne⟩ := mem_queue_erase.1 hy
    refine ⟨fun hid => ?_, y, hold, rfl⟩
    -- An entry of this name waits in one queue only, and there it was taken out.
    exact hne (kind_eq_of_mem hs hold he hid) hid
  · rintro ⟨hne, y, hy, rfl⟩
    exact ⟨y, mem_queue_erase.2 ⟨hy, fun _ => hne⟩, rfl⟩

theorem ofStore_update {f : Entry → Entry} (hf : ∀ x, (f x).id = x.id) :
    Replica.ofStore (s.update kind id f) = Replica.ofStore s := by
  funext other
  unfold Replica.ofStore update
  by_cases hk : other = kind
  · subst hk
    rw [queue_setQueue, List.toFinset_eq_of_perm _ _ ((Entry.rank_perm _).map _), List.map_map]
    congr 1
    refine List.map_congr_left fun x _ => ?_
    rw [Function.comp_apply, apply_ite Entry.id, hf, ite_self]
  · rw [queue_setQueue_of_ne _ _ hk]

/-- An observer who follows the change knows the queues afterwards. -/
theorem follow_effect (hs : (s.entries.map Entry.id).Nodup) (h : Effect s change s') :
    change.toList.foldl Replica.follow (.ofStore s) = .ofStore s' := by
  cases h with
  | silent hsame => exact (Replica.ofStore_congr hsame).symm
  | @came trigger s₁ kind e htrigger hsame habsent =>
    rw [ofStore_insert, Replica.ofStore_congr hsame]
    rcases htrigger with rfl | rfl <;> rfl
  | @went trigger kind e htrigger he =>
    rw [ofStore_erase hs he]
    rcases htrigger with rfl | rfl <;> rfl
  | @moved s₁ kind target e n hne he hsame =>
    rw [ofStore_insert, Replica.ofStore_congr hsame, ofStore_erase hs he]
    rfl
  | @voted kind e voter up he hchanges =>
    rw [ofStore_update (f := (·.setVote voter up)) fun _ => rfl]
    rfl

end Store

/-! ## When there is something to tell -/

/-- The sessions that vote for an entry. -/
def Voters.toFinset (votes : Voters) : Finset SessionId :=
  ⟨votes.toList, votes.nodup⟩

theorem Voters.mem_toFinset {votes : Voters} {voter : SessionId} :
    voter ∈ votes.toFinset ↔ voter ∈ votes :=
  Iff.rfl

/-- A vote that is not as asked for yet changes who votes. -/
theorem Voters.toFinset_set_ne {votes : Voters} {voter : SessionId} {up : Bool}
    (h : votes.changes voter up = true) : (votes.set voter up).toFinset ≠ votes.toFinset := by
  intro heq
  have hmem := Finset.ext_iff.1 heq voter
  rw [mem_toFinset, mem_toFinset, mem_set, if_pos rfl] at hmem
  have hsame : decide (voter ∈ votes) = up := by
    cases up <;> simpa using hmem.symm
  rw [changes, hsame, bne_self_eq_false] at h
  cases h

namespace Store

variable {s s' : Store} {kind : Kind} {e : Entry} {id : TrackId} {change : Change}

/-- The sessions that vote for the track in the queue, if it waits there. -/
def voters? (s : Store) (kind : Kind) (id : TrackId) : Option (Finset SessionId) :=
  (find? (s.queue kind) id).map fun e => e.votes.toFinset

/-- In some queue a track came or went, or has other voters. -/
def Differs (s s' : Store) : Prop :=
  ∃ kind id, s'.voters? kind id ≠ s.voters? kind id

theorem voters?_eq_none (h : ∀ e ∈ s.queue kind, e.id ≠ id) : s.voters? kind id = none := by
  unfold voters? find?
  rw [Option.map_eq_none_iff, List.find?_eq_none]
  intro e he
  simpa using h e he

theorem voters?_of_mem (hs : (s.entries.map Entry.id).Nodup) (he : e ∈ s.queue kind) :
    s.voters? kind e.id = some e.votes.toFinset := by
  unfold voters?
  cases hfind : find? (s.queue kind) e.id with
  | none =>
    have hne := List.find?_eq_none.1 hfind e he
    exact absurd (beq_self_eq_true e.id) hne
  | some x =>
    have hx : x ∈ s.queue kind := List.mem_of_find?_eq_some hfind
    have hid : x.id = e.id := by simpa using List.find?_some hfind
    have hxe := List.inj_on_of_nodup_map hs (mem_entries.2 ⟨kind, hx⟩) (mem_entries.2 ⟨kind, he⟩) hid
    rw [hxe]
    rfl

/-- A track came into a queue. -/
theorem differs_of_insert {s₁ : Store} (hs : ((s₁.insert kind e).entries.map Entry.id).Nodup)
    (habsent : ∀ x ∈ s.queue kind, x.id ≠ e.id) : Differs s (s₁.insert kind e) := by
  refine ⟨kind, e.id, ?_⟩
  have hmem : e ∈ (s₁.insert kind e).queue kind := mem_queue_insert.2 (Or.inr ⟨rfl, rfl⟩)
  rw [voters?_of_mem hs hmem, voters?_eq_none habsent]
  exact Option.some_ne_none _

/-- With every change goes a difference, and without one both queues stay as they are. -/
theorem differs_of_effect (hs : (s.entries.map Entry.id).Nodup)
    (hs' : (s'.entries.map Entry.id).Nodup) (h : Effect s (some change) s') : Differs s s' := by
  cases h with
  | @came trigger s₁ kind e htrigger hsame habsent =>
    exact differs_of_insert hs' fun x hx => habsent x (mem_entries.2 ⟨kind, hx⟩)
  | @went trigger kind e htrigger he =>
    have habsent : ∀ x ∈ (s.erase kind e.id).queue kind, x.id ≠ e.id :=
      fun x hx => (mem_queue_erase.1 hx).2 rfl
    refine ⟨kind, e.id, ?_⟩
    rw [voters?_of_mem hs he, voters?_eq_none habsent]
    nofun
  | @moved s₁ kind target e n hne he hsame =>
    exact differs_of_insert hs' fun x hx hid => hne (kind_eq_of_mem hs he hx hid.symm)
  | @voted kind e voter up he hchanges =>
    have hvoters := voters?_of_mem hs' (mem_queue_update (f := (·.setVote voter up)) he)
    refine ⟨kind, e.id, fun heq => ?_⟩
    rw [voters?_of_mem hs he] at heq
    exact Voters.toFinset_set_ne hchanges (Option.some_inj.1 (hvoters.symm.trans heq))

end Store
end Jukebox.Queue
