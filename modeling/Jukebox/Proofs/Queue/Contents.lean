import Jukebox.Proofs.Queue.Rank
import Jukebox.Queue.Store
import Mathlib.Data.List.Permutation

/-!
# What the two queues hold

The parts of a `Store` seen through its queues, and its `entries`, which are both queues one behind
the other in the order of play.  The operations are made of two moves, putting an entry into a queue
and taking one out:

    (s.insert kind e).entries ~ e :: s.entries                      (entries_insert)
    s.entries ~ e :: (s.erase kind e.id).entries                    (entries_erase)
    s.update kind e.id f = (s.erase kind e.id).insert kind (f e)    (update_eq_insert)

The last two hold where no name occurs twice.
-/

namespace Jukebox.Queue.Store

/-- Everything that waits, in the order of play. -/
def entries (s : Store) : List Entry :=
  s.admin ++ s.normal

@[simp]
theorem queue_setQueue (s : Store) (kind : Kind) (es : List Entry) :
    (s.setQueue kind es).queue kind = es := by
  cases kind <;> rfl

theorem queue_setQueue_of_ne (s : Store) {kind other : Kind} (es : List Entry)
    (h : other ≠ kind) : (s.setQueue kind es).queue other = s.queue other := by
  cases kind <;> cases other <;> first | rfl | exact absurd rfl h

@[simp]
theorem setQueue_setQueue (s : Store) (kind : Kind) (es es' : List Entry) :
    (s.setQueue kind es).setQueue kind es' = s.setQueue kind es' := by
  cases kind <;> rfl

@[simp]
theorem nextSequence_setQueue (s : Store) (kind : Kind) (es : List Entry) :
    (s.setQueue kind es).nextSequence = s.nextSequence := by
  cases kind <;> rfl

@[simp]
theorem queue_advance (s : Store) (kind : Kind) : s.advance.queue kind = s.queue kind := by
  cases kind <;> rfl

@[simp]
theorem entries_advance (s : Store) : s.advance.entries = s.entries := rfl

theorem mem_entries {s : Store} {e : Entry} : e ∈ s.entries ↔ ∃ kind, e ∈ s.queue kind := by
  unfold entries
  rw [List.mem_append]
  constructor
  · rintro (h | h)
    · exact ⟨.admin, h⟩
    · exact ⟨.normal, h⟩
  · rintro ⟨kind, h⟩
    cases kind with
    | normal => exact Or.inr h
    | admin => exact Or.inl h

theorem queue_sublist_entries (s : Store) (kind : Kind) : (s.queue kind).Sublist s.entries := by
  cases kind with
  | normal => exact List.sublist_append_right _ _
  | admin => exact List.sublist_append_left _ _

/-! ## Looking a track up -/

theorem locate_eq_some {s : Store} {id : TrackId} {kind : Kind} {e : Entry}
    (h : s.locate id = some (kind, e)) : e ∈ s.queue kind ∧ e.id = id := by
  unfold locate at h
  obtain ⟨k, -, hk⟩ := List.exists_of_findSome?_eq_some h
  obtain ⟨x, hx, he⟩ := Option.map_eq_some_iff.1 hk
  cases he
  have hid := List.find?_some hx
  exact ⟨List.mem_of_find?_eq_some hx, by simpa using hid⟩

theorem locate_eq_none {s : Store} {id : TrackId} :
    s.locate id = none ↔ ∀ e ∈ s.entries, e.id ≠ id := by
  simp only [locate, Kind.byPrecedence, List.findSome?_eq_none_iff, List.forall_mem_cons,
    Option.map_eq_none_iff, find?, List.find?_eq_none, beq_iff_eq, queue, entries,
    List.forall_mem_append]
  simp

/-! ## Putting an entry in -/

/-- The entries after one queue was replaced by another list. -/
theorem entries_setQueue_perm (s : Store) (kind : Kind) {es es' : List Entry}
    (h : es.Perm es') : (s.setQueue kind es).entries.Perm (s.setQueue kind es').entries := by
  cases kind with
  | normal => exact h.append_left _
  | admin => exact h.append_right _

theorem setQueue_queue (s : Store) (kind : Kind) : s.setQueue kind (s.queue kind) = s := by
  cases kind <;> rfl

theorem entries_setQueue_cons (s : Store) (kind : Kind) (e : Entry) (es : List Entry) :
    (s.setQueue kind (e :: es)).entries.Perm (e :: (s.setQueue kind es).entries) := by
  cases kind with
  | normal => exact List.perm_middle
  | admin => exact List.Perm.refl _

theorem entries_insert (s : Store) (kind : Kind) (e : Entry) :
    (s.insert kind e).entries.Perm (e :: s.entries) := by
  have hp : (Entry.rank (s.queue kind ++ [e])).Perm (e :: s.queue kind) :=
    (Entry.rank_perm _).trans (List.perm_append_singleton _ _)
  have hs := entries_setQueue_cons s kind e (s.queue kind)
  rw [setQueue_queue] at hs
  exact (entries_setQueue_perm s kind hp).trans hs

/-! ## Taking an entry out -/

theorem id_ne_of_nodup {e : Entry} {l : List Entry} (h : ((e :: l).map Entry.id).Nodup) :
    ∀ x ∈ l, x.id ≠ e.id := by
  intro x hx heq
  rw [List.map_cons, List.nodup_cons] at h
  exact h.1 (List.mem_map.2 ⟨x, hx, heq⟩)

/-- Where no name occurs twice, an entry splits its list into the entries of other names. -/
theorem exists_split {l : List Entry} (hl : (l.map Entry.id).Nodup) {e : Entry} (he : e ∈ l) :
    ∃ front back, l = front ++ e :: back ∧ ∀ x ∈ front ++ back, x.id ≠ e.id := by
  obtain ⟨front, back, rfl⟩ := List.append_of_mem he
  have hp : (front ++ e :: back).Perm (e :: (front ++ back)) := List.perm_middle
  exact ⟨front, back, rfl, id_ne_of_nodup ((hp.map Entry.id).nodup_iff.1 hl)⟩

theorem filter_ne_split {front back : List Entry} {e : Entry}
    (h : ∀ x ∈ front ++ back, x.id ≠ e.id) :
    (front ++ e :: back).filter (·.id != e.id) = front ++ back := by
  rw [List.filter_append, List.filter_cons_of_neg (by simp), ← List.filter_append,
    List.filter_eq_self]
  intro x hx
  simpa using h x hx

theorem map_split {front back : List Entry} {e : Entry} (f : Entry → Entry)
    (h : ∀ x ∈ front ++ back, x.id ≠ e.id) :
    ((front ++ e :: back).map fun x => if x.id == e.id then f x else x) = front ++ f e :: back := by
  have hself : ∀ l : List Entry, (∀ x ∈ l, x.id ≠ e.id) →
      (l.map fun x => if x.id == e.id then f x else x) = l := by
    intro l hl
    rw [List.map_congr_left (g := id) fun x hx => by simp [hl x hx], List.map_id]
  rw [List.map_append, List.map_cons, hself front fun x hx => h x (List.mem_append_left _ hx),
    hself back fun x hx => h x (List.mem_append_right _ hx)]
  simp

section
variable {s : Store} {kind : Kind} {e : Entry} (hs : (s.entries.map Entry.id).Nodup)
  (he : e ∈ s.queue kind)
include hs he

theorem exists_split_queue :
    ∃ front back, s.queue kind = front ++ e :: back ∧ ∀ x ∈ front ++ back, x.id ≠ e.id :=
  exists_split (hs.sublist ((queue_sublist_entries s kind).map _)) he

theorem entries_erase : s.entries.Perm (e :: (s.erase kind e.id).entries) := by
  obtain ⟨front, back, hq, hne⟩ := exists_split_queue hs he
  have hp : (s.queue kind).Perm (e :: (s.queue kind).filter (·.id != e.id)) := by
    rw [hq, filter_ne_split hne]
    exact List.perm_middle
  have h := entries_setQueue_perm s kind hp
  rw [setQueue_queue] at h
  exact h.trans (entries_setQueue_cons s kind e _)

/-- Changing an entry in its queue is taking it out and putting the changed one in. -/
theorem update_eq_insert {f : Entry → Entry}
    (hd : ((s.queue kind).map Entry.sequence).Nodup) (hf : (f e).sequence = e.sequence) :
    s.update kind e.id f = (s.erase kind e.id).insert kind (f e) := by
  obtain ⟨front, back, hq, hne⟩ := exists_split_queue hs he
  unfold update insert erase
  rw [queue_setQueue, setQueue_setQueue, hq, filter_ne_split hne, map_split f hne]
  congr 1
  apply Entry.rank_congr
  · exact List.perm_middle.trans (List.perm_append_singleton _ _).symm
  · rw [hq] at hd
    simpa [hf] using hd

end

/-- Taking out the entry at the front leaves the rest of the queue. -/
theorem erase_head {s : Store} {kind : Kind} {e : Entry} {rest : List Entry}
    (hs : (s.entries.map Entry.id).Nodup) (hq : s.queue kind = e :: rest) :
    s.erase kind e.id = s.setQueue kind rest := by
  have hn := hs.sublist ((queue_sublist_entries s kind).map _)
  rw [hq] at hn
  have hne : ∀ x ∈ [] ++ rest, x.id ≠ e.id := id_ne_of_nodup hn
  unfold erase
  rw [hq]
  exact congrArg (s.setQueue kind) (filter_ne_split hne)

/-! ## What each operation can do -/

/-- A name waits in a queue or in none. -/
theorem locate_cases (s : Store) (id : TrackId) :
    (s.locate id = none ∧ ∀ e ∈ s.entries, e.id ≠ id) ∨
    ∃ kind e, s.locate id = some (kind, e) ∧ e ∈ s.queue kind ∧ e.id = id := by
  cases h : s.locate id with
  | none => exact Or.inl ⟨rfl, locate_eq_none.1 h⟩
  | some p => exact Or.inr ⟨p.1, p.2, rfl, locate_eq_some h⟩

/-- Where no name occurs twice, an entry is found in one queue only. -/
theorem kind_eq_of_mem {s : Store} (hs : (s.entries.map Entry.id).Nodup) {kind other : Kind}
    {x y : Entry} (hx : x ∈ s.queue kind) (hy : y ∈ s.queue other) (hid : x.id = y.id) :
    kind = other := by
  unfold entries at hs
  rw [List.map_append] at hs
  have hd := (List.nodup_append.1 hs).2.2
  cases kind <;> cases other
  · rfl
  · exact absurd hid.symm (hd _ (List.mem_map_of_mem hy) _ (List.mem_map_of_mem hx))
  · exact absurd hid (hd _ (List.mem_map_of_mem hx) _ (List.mem_map_of_mem hy))
  · rfl

theorem locate_eq_some_iff {s : Store} (hs : (s.entries.map Entry.id).Nodup) {id : TrackId}
    {kind : Kind} {x : Entry} : s.locate id = some (kind, x) ↔ x ∈ s.queue kind ∧ x.id = id := by
  refine ⟨locate_eq_some, fun ⟨hx, hid⟩ => ?_⟩
  rcases s.locate_cases id with ⟨-, hne⟩ | ⟨other, y, hl, hy, hid'⟩
  · exact absurd hid (hne x (mem_entries.2 ⟨kind, hx⟩))
  · have hk := kind_eq_of_mem hs hx hy (hid.trans hid'.symm)
    have hxy := List.inj_on_of_nodup_map hs (mem_entries.2 ⟨kind, hx⟩) (mem_entries.2 ⟨other, hy⟩)
      (hid.trans hid'.symm)
    rw [hl, hk, hxy]

theorem enqueue_cases (track : Track) (kind : Kind) (s : Store) :
    (∃ other e, e ∈ s.queue other ∧ e.id = track.id ∧
      s.enqueue track kind = ⟨.error (.alreadyQueued track.id other), none, s⟩) ∨
    (∀ e ∈ s.entries, e.id ≠ track.id) ∧
      s.enqueue track kind = ⟨.ok (), some ⟨.enqueued, track.id, kind⟩,
        s.advance.insert kind (.new track s.nextSequence)⟩ := by
  rcases s.locate_cases track.id with ⟨hl, hne⟩ | ⟨other, e, hl, he, hid⟩
  · exact Or.inr ⟨hne, by simp only [enqueue, hl]⟩
  · exact Or.inl ⟨other, e, he, hid, by simp only [enqueue, hl]⟩

theorem vote_cases (id : TrackId) (voter : SessionId) (up : Bool) (s : Store) :
    (∀ e ∈ s.entries, e.id ≠ id) ∧ s.vote id voter up = ⟨.error (.notQueued id), none, s⟩ ∨
    ∃ kind e, e ∈ s.queue kind ∧ e.id = id ∧
      (e.votes.changes voter up = false ∧ s.vote id voter up = ⟨.ok (), none, s⟩ ∨
      e.votes.changes voter up = true ∧ s.vote id voter up =
        ⟨.ok (), some ⟨.voted, id, kind⟩, s.update kind id (·.setVote voter up)⟩) := by
  rcases s.locate_cases id with ⟨hl, hne⟩ | ⟨kind, e, hl, he, hid⟩
  · exact Or.inl ⟨hne, by simp only [vote, hl]⟩
  · refine Or.inr ⟨kind, e, he, hid, ?_⟩
    cases hc : e.votes.changes voter up with
    | false => exact Or.inl ⟨rfl, by simp [vote, hl, hc]⟩
    | true => exact Or.inr ⟨rfl, by simp [vote, hl, hc]⟩

theorem remove_cases (id : TrackId) (s : Store) :
    (∀ e ∈ s.entries, e.id ≠ id) ∧ s.remove id = ⟨.error (.notQueued id), none, s⟩ ∨
    ∃ kind e, e ∈ s.queue kind ∧ e.id = id ∧
      s.remove id = ⟨.ok e, some ⟨.removed, id, kind⟩, s.erase kind id⟩ := by
  rcases s.locate_cases id with ⟨hl, hne⟩ | ⟨kind, e, hl, he, hid⟩
  · exact Or.inl ⟨hne, by simp only [remove, hl]⟩
  · exact Or.inr ⟨kind, e, he, hid, by simp only [remove, hl]⟩

theorem move_cases (id : TrackId) (target : Kind) (s : Store) :
    (∀ e ∈ s.entries, e.id ≠ id) ∧ s.move id target = ⟨.error (.notQueued id), none, s⟩ ∨
    ∃ kind e, e ∈ s.queue kind ∧ e.id = id ∧
      (kind = target ∧ s.move id target = ⟨.ok (), none, s⟩ ∨
      kind ≠ target ∧ s.move id target = ⟨.ok (), some ⟨.moved, id, target⟩,
        ((s.erase kind id).advance).insert target { e with sequence := s.nextSequence }⟩) := by
  rcases s.locate_cases id with ⟨hl, hne⟩ | ⟨kind, e, hl, he, hid⟩
  · exact Or.inl ⟨hne, by simp only [move, hl]⟩
  · refine Or.inr ⟨kind, e, he, hid, ?_⟩
    by_cases hk : kind = target
    · exact Or.inl ⟨hk, by simp [move, hl, hk]⟩
    · exact Or.inr ⟨hk, by simp [move, hl, hk]⟩

/-- Popping takes the first entry in the order of play off the queue that it heads. -/
theorem pop_cases (s : Store) :
    s.entries = [] ∧ s.pop = ⟨none, none, s⟩ ∨
    ∃ kind e rest, s.queue kind = e :: rest ∧ s.entries = e :: (s.setQueue kind rest).entries ∧
      s.pop = ⟨some ⟨e, kind⟩, some ⟨.popped, e.id, kind⟩, s.setQueue kind rest⟩ := by
  obtain ⟨normal, admin, next, playing⟩ := s
  cases admin with
  | cons e rest => exact Or.inr ⟨.admin, e, rest, rfl, rfl, rfl⟩
  | nil =>
    cases normal with
    | cons e rest => exact Or.inr ⟨.normal, e, rest, rfl, rfl, rfl⟩
    | nil => exact Or.inl ⟨rfl, rfl⟩

/-- What popping answers determines the rest of its outcome. -/
theorem pop_eq_some {s : Store} {popped : Popped} (h : s.pop.reply = some popped) :
    s.pop = ⟨some popped, some ⟨.popped, popped.entry.id, popped.queue⟩, s.pop.store⟩ := by
  rcases s.pop_cases with ⟨-, ho⟩ | ⟨kind, e, rest, -, -, ho⟩ <;> rw [ho] at h ⊢
  · cases h
  · cases h
    rfl

theorem pop_eq_none {s : Store} (h : s.pop.reply = none) : s.pop = ⟨none, none, s⟩ := by
  rcases s.pop_cases with ⟨-, ho⟩ | ⟨kind, e, rest, -, -, ho⟩ <;> rw [ho] at h ⊢
  cases h

theorem restore_cases (p : Popped) (s : Store) :
    (∃ e ∈ s.entries, e.id = p.entry.id) ∧ s.restore p = ⟨false, none, s⟩ ∨
    (∀ e ∈ s.entries, e.id ≠ p.entry.id) ∧
      s.restore p =
        ⟨true, some ⟨.restored, p.entry.id, p.queue⟩, s.insert p.queue p.entry⟩ := by
  rcases s.locate_cases p.entry.id with ⟨hl, hne⟩ | ⟨kind, e, hl, he, hid⟩
  · exact Or.inr ⟨hne, by simp [restore, contains, hl]⟩
  · exact Or.inl ⟨⟨e, mem_entries.2 ⟨kind, he⟩, hid⟩, by simp [restore, contains, hl]⟩

/-! ## What is playing -/

@[simp]
theorem nowPlaying_setQueue (s : Store) (kind : Kind) (es : List Entry) :
    (s.setQueue kind es).nowPlaying = s.nowPlaying := by
  cases kind <;> rfl

/-- The playback that an operation reports. -/
def Operation.reports : Operation → Option (Option Playback)
  | .setNowPlaying playback => some playback
  | _ => none

/-- Only the operation for it writes what is playing. -/
theorem nowPlaying_apply (op : Operation) (s : Store) :
    (s.apply op).store.nowPlaying = op.reports.getD s.nowPlaying := by
  cases op with
  | setNowPlaying playback => rfl
  | enqueue track kind =>
    change (s.enqueue track kind).store.nowPlaying = _
    unfold enqueue
    split
    · rfl
    · exact nowPlaying_setQueue ..
  | vote id voter up =>
    change (s.vote id voter up).store.nowPlaying = _
    unfold vote
    split
    · rfl
    · split
      · exact nowPlaying_setQueue ..
      · rfl
  | remove id =>
    change (s.remove id).store.nowPlaying = _
    unfold remove
    split
    · rfl
    · exact nowPlaying_setQueue ..
  | move id target =>
    change (s.move id target).store.nowPlaying = _
    unfold move
    split
    · rfl
    · split
      · rfl
      · exact (nowPlaying_setQueue ..).trans (nowPlaying_setQueue ..)
  | pop =>
    change s.pop.store.nowPlaying = _
    unfold pop
    split <;> rfl
  | restore popped =>
    change (s.restore popped).store.nowPlaying = _
    unfold restore
    split
    · rfl
    · exact nowPlaying_setQueue ..

end Jukebox.Queue.Store
