import Jukebox.Proofs.Queue.Contents

/-!
# The invariant of the two queues

A `Ledger` is a store in use: beside the store it names the entries that were taken off for playback
and did not come back, and counts the sequence numbers that were given out.  Entries that are away
may come back at any time, after any other operations; an entry that was refused stays away.

Of every store so reached, before the numbers run out, `Valid` holds: no name occurs twice, both
queues are ranked, and all entries, waiting or away, have different numbers below the next one
(`Ledger.Reachable.valid`).  Each operation is taking an entry out (`Valid.erase`), giving it a number
(`Valid.fresh`, `Valid.renumber`) and putting it in (`Valid.insert`), or several of these.
-/

namespace Jukebox.Queue

/-- A change for one of the first two reasons gives a sequence number out. -/
def Trigger.takesNumber : Trigger → Bool
  | .enqueued | .moved => true
  | .voted | .removed | .popped | .restored => false

namespace Store

/-- The operation gave a sequence number out. -/
def Outcome.takesNumber {α : Type} (o : Outcome α) : Bool :=
  o.change.any (·.trigger.takesNumber)

/-- The next number of the store `s` goes up by one if a number was given out. -/
def Outcome.Counted {α : Type} (o : Outcome α) (s : Store) : Prop :=
  o.store.nextSequence = s.nextSequence + if o.takesNumber then 1 else 0

/-- What holds of a store in use; the entries `away` were taken off it and may come back. -/
structure Valid (s : Store) (away : List Entry) : Prop where
  /-- No name occurs twice in the two queues together. -/
  unique : (s.entries.map Entry.id).Nodup
  ranked : ∀ kind, Entry.Ranked (s.queue kind)
  /-- Entries have different numbers, whether they wait or are away. -/
  distinct : ((s.entries ++ away).map Entry.sequence).Nodup
  issued : ∀ e ∈ s.entries ++ away, e.sequence < s.nextSequence

theorem valid_empty : Valid .empty [] where
  unique := List.nodup_nil
  ranked kind := by cases kind <;> exact List.Pairwise.nil
  distinct := List.nodup_nil
  issued := by simp [entries, empty]

namespace Valid

variable {s s' : Store} {away away' : List Entry} {e : Entry} {kind : Kind}

/-- The same entries, of which others wait and others are away. -/
theorem rearrange (h : Valid s away) (hp : (s'.entries ++ away').Perm (s.entries ++ away))
    (hn : s'.nextSequence = s.nextSequence) (hu : (s'.entries.map Entry.id).Nodup)
    (hr : ∀ kind, Entry.Ranked (s'.queue kind)) : Valid s' away' where
  unique := hu
  ranked := hr
  distinct := (hp.map _).nodup_iff.2 h.distinct
  issued x hx := by
    rw [hn]
    exact h.issued x (hp.mem_iff.1 hx)

theorem perm (h : Valid s away) (hp : away'.Perm away) : Valid s away' :=
  h.rearrange (hp.append_left _) rfl h.unique h.ranked

/-- An entry that is away may be given up. -/
theorem tail (h : Valid s (e :: away)) : Valid s away where
  unique := h.unique
  ranked := h.ranked
  distinct := h.distinct.sublist (((List.sublist_cons_self e away).append_left _).map _)
  issued x hx := h.issued x (((List.sublist_cons_self e away).append_left _).mem hx)

theorem forget (h : Valid s away) : Valid s [] := by
  induction away with
  | nil => exact h
  | cons e away ih => exact ih h.tail

/-- An entry that is away may change, if it keeps its number. -/
theorem renumber {e' : Entry} (h : Valid s (e :: away)) (he : e'.sequence = e.sequence) :
    Valid s (e' :: away) where
  unique := h.unique
  ranked := h.ranked
  distinct := by
    have hd := h.distinct
    rw [List.map_append, List.map_cons] at hd ⊢
    rwa [he]
  issued x hx := by
    rcases List.mem_append.1 hx with hx | hx
    · exact h.issued x (List.mem_append_left _ hx)
    · rcases List.mem_cons.1 hx with rfl | hx
      · rw [he]
        exact h.issued e (by simp)
      · exact h.issued x (by simp [hx])

theorem toNat_advance (hn : s.nextSequence.toNat + 1 < UInt64.size) :
    s.advance.nextSequence.toNat = s.nextSequence.toNat + 1 := by
  unfold advance
  rw [UInt64.toNat_add]
  exact Nat.mod_eq_of_lt hn

/-- A new entry has a number that no other entry has. -/
theorem fresh (h : Valid s away) (hn : s.nextSequence.toNat + 1 < UInt64.size)
    (he : e.sequence = s.nextSequence) : Valid s.advance (e :: away) where
  unique := h.unique
  ranked kind := by
    rw [queue_advance]
    exact h.ranked kind
  distinct := by
    rw [entries_advance, (List.perm_middle.map Entry.sequence).nodup_iff, List.map_cons,
      List.nodup_cons]
    refine ⟨fun hm => ?_, h.distinct⟩
    obtain ⟨x, hx, hseq⟩ := List.mem_map.1 hm
    have hlt := h.issued x hx
    rw [hseq, he] at hlt
    exact UInt64.lt_irrefl _ hlt
  issued x hx := by
    rw [UInt64.lt_iff_toNat_lt, toNat_advance hn]
    rw [entries_advance, List.perm_middle.mem_iff, List.mem_cons] at hx
    rcases hx with rfl | hx
    · rw [he]
      omega
    · have hlt := UInt64.lt_iff_toNat_lt.1 (h.issued x hx)
      omega

/-- Replacing one queue by a ranked list leaves both ranked. -/
theorem ranked_setQueue (h : Valid s away) {es : List Entry} (hes : Entry.Ranked es) (other : Kind) :
    Entry.Ranked ((s.setQueue kind es).queue other) := by
  by_cases hk : other = kind
  · subst hk
    rw [queue_setQueue]
    exact hes
  · rw [queue_setQueue_of_ne s es hk]
    exact h.ranked other

/-- An entry that is away may be put into a queue, if its name does not occur there. -/
theorem insert (h : Valid s (e :: away)) (hid : ∀ x ∈ s.entries, x.id ≠ e.id) :
    Valid (s.insert kind e) away := by
  have hp := entries_insert s kind e
  refine h.rearrange ((hp.append_right away).trans List.perm_middle.symm)
    (nextSequence_setQueue _ _ _) ?_ (h.ranked_setQueue ?_)
  · rw [(hp.map _).nodup_iff, List.map_cons, List.nodup_cons]
    refine ⟨fun hm => ?_, h.unique⟩
    obtain ⟨x, hx, heq⟩ := List.mem_map.1 hm
    exact hid x hx heq
  · -- Ranking is strict because the number of `e`, too, is one that no other entry has.
    have hsub : (s.queue kind ++ [e]).Sublist (s.entries ++ e :: away) :=
      (queue_sublist_entries s kind).append ((List.nil_sublist away).cons_cons e)
    exact Entry.ranked_rank (h.distinct.sublist (hsub.map _))

/-- An entry that is taken out of its queue is away. -/
theorem erase (h : Valid s away) (he : e ∈ s.queue kind) : Valid (s.erase kind e.id) (e :: away) := by
  have hp := entries_erase h.unique he
  refine h.rearrange (List.perm_middle.trans (hp.append_right away).symm)
    (nextSequence_setQueue _ _ _) ?_ (h.ranked_setQueue ?_)
  · have hu := (hp.map Entry.id).nodup_iff.1 h.unique
    exact (List.nodup_cons.1 hu).2
  · exact (h.ranked kind).sublist List.filter_sublist

/-- After an entry was taken out, its name does not occur. -/
theorem id_ne_of_mem_erase (h : Valid s away) (he : e ∈ s.queue kind) :
    ∀ x ∈ (s.erase kind e.id).entries, x.id ≠ e.id := by
  have hp := entries_erase h.unique he
  exact id_ne_of_nodup ((hp.map Entry.id).nodup_iff.1 h.unique)

theorem nodup_sequence_queue (h : Valid s away) (kind : Kind) :
    ((s.queue kind).map Entry.sequence).Nodup :=
  h.distinct.sublist
    (((queue_sublist_entries s kind).trans (List.sublist_append_left _ away)).map _)

/-! ### One lemma for each operation -/

theorem enqueue (h : Valid s away) (track : Track) (kind : Kind)
    (hn : (s.enqueue track kind).takesNumber → s.nextSequence.toNat + 1 < UInt64.size) :
    Valid (s.enqueue track kind).store away := by
  rcases enqueue_cases track kind s with ⟨_, _, -, -, ho⟩ | ⟨hne, ho⟩
  · rw [ho]
    exact h
  · rw [ho] at hn ⊢
    exact (h.fresh (hn rfl) rfl).insert hne

theorem vote (h : Valid s away) (id : TrackId) (voter : SessionId) (up : Bool) :
    Valid (s.vote id voter up).store away := by
  rcases vote_cases id voter up s with ⟨-, ho⟩ | ⟨kind, e, he, rfl, ⟨-, ho⟩ | ⟨-, ho⟩⟩
  · rw [ho]
    exact h
  · rw [ho]
    exact h
  · -- The voted entry is one that was taken out and comes back with its number.
    rw [ho, update_eq_insert h.unique he (h.nodup_sequence_queue kind) rfl]
    have hv : Valid (s.erase kind e.id) (e.setVote voter up :: away) := (h.erase he).renumber rfl
    exact hv.insert (h.id_ne_of_mem_erase he)

theorem remove (h : Valid s away) (id : TrackId) : Valid (s.remove id).store away := by
  rcases remove_cases id s with ⟨-, ho⟩ | ⟨kind, e, he, rfl, ho⟩
  · rw [ho]
    exact h
  · rw [ho]
    exact (h.erase he).tail

theorem move (h : Valid s away) (id : TrackId) (target : Kind)
    (hn : (s.move id target).takesNumber → s.nextSequence.toNat + 1 < UInt64.size) :
    Valid (s.move id target).store away := by
  rcases move_cases id target s with ⟨-, ho⟩ | ⟨kind, e, he, rfl, ⟨-, ho⟩ | ⟨-, ho⟩⟩
  · rw [ho]
    exact h
  · rw [ho]
    exact h
  · rw [ho] at hn ⊢
    have hnext : (s.erase kind e.id).nextSequence = s.nextSequence := nextSequence_setQueue _ _ _
    exact ((h.erase he).tail.fresh (by rw [hnext]; exact hn rfl) hnext.symm).insert
      (h.id_ne_of_mem_erase he)

theorem pop (h : Valid s away) :
    Valid s.pop.store ((s.pop.reply.toList.map Popped.entry) ++ away) := by
  rcases pop_cases s with ⟨-, ho⟩ | ⟨kind, e, rest, hq, -, ho⟩
  · rw [ho]
    exact h
  · rw [ho, ← erase_head h.unique hq]
    exact h.erase (by rw [hq]; exact List.mem_cons_self)

theorem restore {p : Popped} (h : Valid s (p.entry :: away)) :
    Valid (s.restore p).store (if (s.restore p).reply then away else p.entry :: away) := by
  rcases restore_cases p s with ⟨-, ho⟩ | ⟨hne, ho⟩
  · rw [ho]
    exact h
  · rw [ho]
    exact h.insert hne

/-- An entry that comes back at once regains its place. -/
theorem restore_pop (h : Valid s away) {popped : Popped} {change : Option Change}
    (hpop : s.pop = ⟨some popped, change, s'⟩) : (s'.restore popped).store = s := by
  rcases s.pop_cases with ⟨-, ho⟩ | ⟨kind, e, rest, hq, hentries, ho⟩
  · rw [ho] at hpop
    cases hpop
  · rw [ho] at hpop
    cases hpop
    have hu := h.unique
    rw [hentries] at hu
    rcases restore_cases ⟨e, kind⟩ (s.setQueue kind rest) with ⟨⟨x, hx, hid⟩, -⟩ | ⟨-, ho⟩
    · exact absurd hid (id_ne_of_nodup hu x hx)
    · have hn : ((rest ++ [e]).map Entry.sequence).Nodup := by
        rw [((List.perm_append_singleton e rest).map _).nodup_iff, ← hq]
        exact h.nodup_sequence_queue kind
      have hrank : Entry.rank (rest ++ [e]) = s.queue kind := by
        rw [Entry.rank_congr (List.perm_append_singleton e rest) hn, ← hq]
        exact (h.ranked kind).rank_eq
      rw [ho]
      unfold Store.insert
      rw [queue_setQueue, setQueue_setQueue, hrank]
      exact setQueue_queue s kind

theorem setNowPlaying (h : Valid s away) (playback : Option Playback) :
    Valid (s.setNowPlaying playback).store away :=
  h.rearrange (List.Perm.refl _) rfl h.unique fun
    | .normal => h.ranked .normal
    | .admin => h.ranked .admin

end Valid

/-- The next number goes up by one exactly when a number is given out. -/
theorem counted_apply (op : Operation) (s : Store) : (s.apply op).Counted s := by
  have hsame : ∀ n : UInt64, n = n + 0 := fun n => (UInt64.add_zero n).symm
  cases op with
  | enqueue track kind =>
    show (s.enqueue track kind).Counted s
    rcases enqueue_cases track kind s with ⟨_, _, -, -, ho⟩ | ⟨-, ho⟩ <;> rw [ho]
    · exact hsame _
    · exact nextSequence_setQueue _ _ _
  | vote id voter up =>
    show (s.vote id voter up).Counted s
    rcases vote_cases id voter up s with ⟨-, ho⟩ | ⟨_, _, -, -, ⟨-, ho⟩ | ⟨-, ho⟩⟩ <;> rw [ho]
    · exact hsame _
    · exact hsame _
    · exact (nextSequence_setQueue _ _ _).trans (hsame _)
  | remove id =>
    show (s.remove id).Counted s
    rcases remove_cases id s with ⟨-, ho⟩ | ⟨_, _, -, -, ho⟩ <;> rw [ho]
    · exact hsame _
    · exact (nextSequence_setQueue _ _ _).trans (hsame _)
  | move id target =>
    show (s.move id target).Counted s
    rcases move_cases id target s with ⟨-, ho⟩ | ⟨_, _, -, -, ⟨-, ho⟩ | ⟨-, ho⟩⟩ <;> rw [ho]
    · exact hsame _
    · exact hsame _
    · exact (nextSequence_setQueue _ _ _).trans
        (congrArg (· + 1) (nextSequence_setQueue _ _ _))
  | pop =>
    show s.pop.Counted s
    rcases pop_cases s with ⟨-, ho⟩ | ⟨_, _, _, -, -, ho⟩ <;> rw [ho]
    · exact hsame _
    · exact (nextSequence_setQueue _ _ _).trans (hsame _)
  | restore p =>
    show (s.restore p).Counted s
    rcases restore_cases p s with ⟨-, ho⟩ | ⟨-, ho⟩ <;> rw [ho]
    · exact hsame _
    · exact (nextSequence_setQueue _ _ _).trans (hsame _)
  | setNowPlaying playback => exact hsame _

end Store

/-! ## Stores in use -/

/-- A store in use. -/
structure Ledger where
  store : Store
  /-- The entries that were popped and are not back. -/
  away : List Popped
  /-- The sequence numbers given out so far. -/
  given : Nat

namespace Ledger

open Store (Operation)

/-- Nothing was done yet. -/
def start : Ledger :=
  ⟨.empty, [], 0⟩

/-- Only an entry that is away can be restored. -/
def Allows (l : Ledger) : Operation → Prop
  | .restore p => p ∈ l.away
  | _ => True

/-- The ledger after an operation. -/
def perform (l : Ledger) (op : Operation) : Ledger where
  store := (l.store.apply op).store
  away :=
    match op with
    | .pop => l.store.pop.reply.toList ++ l.away
    | .restore p => if (l.store.restore p).reply then l.away.erase p else l.away
    | _ => l.away
  given := l.given + if (l.store.apply op).takesNumber then 1 else 0

/-- What finitely many operations lead to. -/
inductive Reachable : Ledger → Prop
  | start : Reachable .start
  | perform {l : Ledger} (op : Operation) : Reachable l → l.Allows op → Reachable (l.perform op)

theorem perform_valid {l : Ledger} {op : Operation} (ha : l.Allows op)
    (hv : l.store.Valid (l.away.map Popped.entry))
    (hn : (l.store.apply op).takesNumber → l.store.nextSequence.toNat + 1 < UInt64.size) :
    (l.perform op).store.Valid ((l.perform op).away.map Popped.entry) := by
  cases op with
  | enqueue track kind => exact hv.enqueue track kind hn
  | vote id voter up => exact hv.vote id voter up
  | remove id => exact hv.remove id
  | move id target => exact hv.move id target hn
  | pop =>
    simp only [perform, List.map_append]
    exact hv.pop
  | restore p =>
    have hp : (l.away.map Popped.entry).Perm (p.entry :: (l.away.erase p).map Popped.entry) :=
      (List.perm_cons_erase ha).map _
    have hr := (hv.perm hp.symm).restore
    simp only [perform]
    split
    · next h => rwa [if_pos h] at hr
    · next h =>
      rw [if_neg h] at hr
      exact hr.perm hp
  | setNowPlaying playback => exact hv.setNowPlaying playback

/-- The invariant of stores in use, as long as there are numbers left. -/
theorem Reachable.valid {l : Ledger} (h : l.Reachable) (hg : l.given < UInt64.size) :
    l.store.Valid (l.away.map Popped.entry) ∧ l.store.nextSequence.toNat = l.given := by
  induction h with
  | start => exact ⟨Store.valid_empty, rfl⟩
  | @perform l op _ ha ih =>
    have hle : l.given ≤ (l.perform op).given := Nat.le_add_right _ _
    obtain ⟨hv, hn⟩ := ih (by omega)
    have hroom : (l.store.apply op).takesNumber → l.store.nextSequence.toNat + 1 < UInt64.size := by
      intro ht
      simp only [Ledger.perform, if_pos ht] at hg
      omega
    refine ⟨perform_valid ha hv hroom, ?_⟩
    show (l.store.apply op).store.nextSequence.toNat = _
    rw [Store.counted_apply]
    simp only [Ledger.perform]
    split
    · next ht => exact (Store.Valid.toNat_advance (hroom ht)).trans (congrArg (· + 1) hn)
    · rw [UInt64.add_zero]
      exact hn

/-- As long as there are numbers left, the next one can be given out. -/
theorem Reachable.room {l : Ledger} (h : l.Reachable) (op : Operation)
    (hg : (l.perform op).given < UInt64.size) (ht : (l.store.apply op).takesNumber) :
    l.store.nextSequence.toNat + 1 < UInt64.size := by
  have hgiven : (l.perform op).given = l.given + 1 := congrArg (l.given + ·) (if_pos ht)
  rw [(h.valid (by omega)).2]
  omega

/-- **The invariant of the queues.**  Names occur once, each queue is strictly in rank order, which is
the only such order of its entries, and the numbers of all entries are different and given out. -/
theorem reachable_invariant {l : Ledger} (h : l.Reachable) (hg : l.given < UInt64.size) :
    ((l.store.admin ++ l.store.normal).map Entry.id).Nodup ∧
    (∀ kind, (l.store.queue kind).Pairwise (fun a b => a.compareRank b = .lt ∧
        (b.score < a.score ∨ a.score = b.score ∧ a.sequence < b.sequence)) ∧
      ∀ es : List Entry, es.Perm (l.store.queue kind) → es.Pairwise (fun a b => a.precedes b) →
        es = l.store.queue kind) ∧
    ((l.store.admin ++ l.store.normal ++ l.away.map Popped.entry).map Entry.sequence).Nodup ∧
    ∀ e ∈ l.store.admin ++ l.store.normal ++ l.away.map Popped.entry,
      e.sequence < l.store.nextSequence := by
  obtain ⟨hv, -⟩ := h.valid hg
  refine ⟨hv.unique, fun kind => ⟨?_, fun es hp hes => ?_⟩, hv.distinct, hv.issued⟩
  · exact (hv.ranked kind).imp fun hlt => ⟨hlt, Entry.compareRank_eq_lt.1 hlt⟩
  · exact (hv.ranked kind).eq_of_perm hp hes

/-- Two tracks; the first comes back after it was popped and the second has changed its queue. -/
theorem reachable_invariant_restored :
    let a : Track := ⟨⟨"a"⟩, "A", "", "", 1000, ""⟩
    let b : Track := ⟨⟨"b"⟩, "B", "", "", 1000, ""⟩
    let l := [Operation.enqueue a .normal, .enqueue b .normal, .pop, .move ⟨"b"⟩ .admin,
      .restore ⟨.new a 0, .normal⟩].foldl Ledger.perform .start
    l.Reachable ∧ l.given < UInt64.size ∧ l.store.size = 2 ∧
      ((l.store.admin ++ l.store.normal ++ l.away.map Popped.entry).map Entry.sequence).Nodup := by
  intro a b l
  have hr : l.Reachable := by
    refine .perform _ (.perform _ (.perform _ (.perform _ (.perform _ .start ?_) ?_) ?_) ?_) ?_
    · trivial
    · trivial
    · trivial
    · trivial
    · show (⟨.new a 0, .normal⟩ : Popped) ∈ _
      cbv
      exact List.Mem.head _
  have hg : l.given < UInt64.size := by cbv
  exact ⟨hr, hg, by cbv, (reachable_invariant hr hg).2.2.1⟩

end Ledger
end Jukebox.Queue
