import Jukebox.Proofs.Queue.Effects

/-!
# Where an operation puts its track

Every operation but `setNowPlaying` has a track as its `subject`.  The entries of all other tracks stay in their
queues, as they are and in their order, since an operation only takes its subject out (`erase`) and puts it in
(`insert`).  A queue is ranked anew as a whole when an entry is put in, but then the entry goes behind exactly
those that outrank it (`putBehind_insert`).

    a new entry goes behind all others, a moved one behind all with as many votes, a voted one behind all that
    outrank it now                                                            (others_kept_subject_placed)
-/

namespace Jukebox.Queue

/-- The entry `x` has more votes than `e`, or as many and a smaller number. -/
def Entry.Outranks (x e : Entry) : Prop :=
  e.score < x.score ∨ x.score = e.score ∧ x.sequence < e.sequence

/-- The entry `e` is put into a queue behind exactly those that are `ahead`; the others keep their order. -/
def PutBehind (ahead : Entry → Prop) (e : Entry) (es es' : List Entry) : Prop :=
  ∃ front back, es = front ++ back ∧ es' = front ++ e :: back ∧
    (∀ x ∈ front, ahead x) ∧ ∀ x ∈ back, ¬ ahead x

/-- The entries of all tracks but one, in their order. -/
def others (subject : Option TrackId) (es : List Entry) : List Entry :=
  es.filter fun e => some e.id != subject

section
variable {ahead ahead' : Entry → Prop} {e : Entry} {es es' : List Entry}

theorem PutBehind.congr (h : PutBehind ahead e es es') (hsame : ∀ x ∈ es, ahead x ↔ ahead' x) :
    PutBehind ahead' e es es' := by
  obtain ⟨front, back, rfl, rfl, hfront, hback⟩ := h
  refine ⟨front, back, rfl, rfl, fun x hx => ?_, fun x hx => ?_⟩
  · exact (hsame x (List.mem_append_left _ hx)).1 (hfront x hx)
  · rw [← hsame x (List.mem_append_right _ hx)]
    exact hback x hx

/-- Behind all others is at the end. -/
theorem PutBehind.eq_concat (h : PutBehind ahead e es es') (hall : ∀ x ∈ es, ahead x) : es' = es ++ [e] := by
  obtain ⟨front, back, rfl, rfl, -, hback⟩ := h
  cases back with
  | nil => rw [List.append_nil]
  | cons x back =>
    exact absurd (hall x (List.mem_append_right _ List.mem_cons_self)) (hback x List.mem_cons_self)

theorem PutBehind.others_eq (h : PutBehind ahead e es es') : others (some e.id) es' = others (some e.id) es := by
  obtain ⟨front, back, rfl, rfl, -⟩ := h
  unfold others
  rw [List.filter_append, List.filter_append, List.filter_cons_of_neg (by simp)]

/-- In a ranked list, an entry of another number is ranked behind exactly those that outrank it. -/
theorem Entry.putBehind_rank (hes : Ranked es) (hn : ((es ++ [e]).map sequence).Nodup) :
    PutBehind (·.Outranks e) e es (rank (es ++ [e])) := by
  have he : e ∈ rank (es ++ [e]) := mem_rank.2 (List.mem_append_right es List.mem_cons_self)
  have hranked := ranked_rank hn
  obtain ⟨front, back, hsplit⟩ := List.append_of_mem he
  have hp : (e :: (front ++ back)).Perm (e :: es) := by
    have hrank := rank_perm (es ++ [e])
    rw [hsplit] at hrank
    exact List.perm_middle.symm.trans (hrank.trans (List.perm_append_singleton e es))
  rw [hsplit] at hranked
  have hkept : (front ++ back).Sublist (front ++ e :: back) :=
    (List.Sublist.refl front).append (List.sublist_cons_self e back)
  -- Without `e` the ranked list is a ranking of the list before, which is the only one.
  have hothers : front ++ back = es := hes.eq_of_perm hp.cons_inv (hranked.sublist hkept).precedes
  obtain ⟨-, hback, hfront⟩ := List.pairwise_append.1 hranked
  refine ⟨front, back, hothers.symm, hsplit, fun x hx => ?_, fun x hx hx' => ?_⟩
  · exact compareRank_eq_lt.1 (hfront x hx e List.mem_cons_self)
  · have hlt := compareRank_eq_lt.1 ((List.pairwise_cons.1 hback).1 x hx)
    unfold Outranks at hx'
    grind

end

namespace Store

variable {s : Store} {away : List Entry} {kind other : Kind} {e : Entry} {id : TrackId}

/-! ## Putting an entry in -/

theorem Valid.sequence_lt (h : s.Valid away) : ∀ x ∈ s.queue kind, x.sequence < s.nextSequence :=
  fun x hx => h.issued x (List.mem_append_left _ (mem_entries.2 ⟨kind, hx⟩))

theorem Valid.sequence_ne_away (h : s.Valid away) (he : e ∈ away) :
    ∀ x ∈ s.queue kind, x.sequence ≠ e.sequence := by
  have hd := h.distinct
  rw [List.map_append] at hd
  exact fun x hx => (List.nodup_append.1 hd).2.2 _ (List.mem_map_of_mem (mem_entries.2 ⟨kind, hx⟩)) _
    (List.mem_map_of_mem he)

theorem putBehind_insert (h : s.Valid away) (hn : ∀ x ∈ s.queue kind, x.sequence ≠ e.sequence) :
    PutBehind (·.Outranks e) e (s.queue kind) ((s.insert kind e).queue kind) := by
  unfold insert
  rw [queue_setQueue]
  refine Entry.putBehind_rank (h.ranked kind) ?_
  rw [List.map_append, List.map_singleton, List.nodup_append]
  refine ⟨h.nodup_sequence_queue kind, List.nodup_singleton _, ?_⟩
  rintro n hmem m hm rfl
  obtain ⟨x, hx, rfl⟩ := List.mem_map.1 hmem
  exact hn x hx (List.mem_singleton.1 hm)

theorem others_insert (h : s.Valid away) (hn : ∀ x ∈ s.queue kind, x.sequence ≠ e.sequence) :
    others (some e.id) ((s.insert kind e).queue other) = others (some e.id) (s.queue other) := by
  by_cases hk : other = kind
  · subst hk
    exact (putBehind_insert h hn).others_eq
  · unfold insert
    rw [queue_setQueue_of_ne _ _ hk]

/-! ## Taking an entry out -/

theorem queue_erase : (s.erase kind id).queue kind = others (some id) (s.queue kind) :=
  queue_setQueue _ _ _

theorem others_erase :
    others (some id) ((s.erase kind id).queue other) = others (some id) (s.queue other) := by
  by_cases hk : other = kind
  · subst hk
    rw [queue_erase]
    exact List.filter_filter.trans (List.filter_congr fun _ _ => Bool.and_self _)
  · unfold erase
    rw [queue_setQueue_of_ne _ _ hk]

/-! ## Operations -/

/-- The track that an operation on a store is about. -/
def Operation.subject (s : Store) : Operation → Option TrackId
  | .enqueue track _ => some track.id
  | .vote id _ _ | .remove id | .move id _ => some id
  | .pop => s.pop.reply.map (·.entry.id)
  | .restore popped => some popped.entry.id
  | .setNowPlaying _ => none

theorem queue_advance_insert : (s.advance.insert kind e).queue other = (s.insert kind e).queue other := by
  rw [← advance_insert, queue_advance]

/-- Taking an entry out and putting it in with another number or other votes leaves the others. -/
theorem others_erase_insert {e' : Entry} {source : Kind} (h : s.Valid away) (he : e ∈ s.queue source)
    (hid : e'.id = e.id) (hn : ∀ x ∈ (s.erase source e.id).queue kind, x.sequence ≠ e'.sequence) :
    others (some e.id) (((s.erase source e.id).insert kind e').queue other) =
      others (some e.id) (s.queue other) := by
  have hins : others (some e'.id) (((s.erase source e.id).insert kind e').queue other) =
      others (some e'.id) ((s.erase source e.id).queue other) := others_insert (h.erase he) hn
  rw [hid] at hins
  exact hins.trans others_erase

/-- An operation leaves the entries of all tracks but its subject. -/
theorem others_apply {op : Operation} (h : s.Valid away)
    (haway : ∀ popped, op = .restore popped → popped.entry ∈ away) :
    others (op.subject s) ((s.apply op).store.queue other) = others (op.subject s) (s.queue other) := by
  cases op with
  | enqueue track kind =>
    show others (some track.id) ((s.enqueue track kind).store.queue other) = _
    rcases s.enqueue_cases track kind with ⟨_, _, -, -, ho⟩ | ⟨-, ho⟩ <;> rw [ho]
    · rfl
    · rw [queue_advance_insert]
      exact others_insert (e := .new track s.nextSequence) h fun x hx => UInt64.ne_of_lt (h.sequence_lt x hx)
  | vote id voter up =>
    show others (some id) ((s.vote id voter up).store.queue other) = others (some id) (s.queue other)
    rcases s.vote_cases id voter up with ⟨-, ho⟩ | ⟨kind, e, he, rfl, ⟨-, ho⟩ | ⟨-, ho⟩⟩ <;> rw [ho]
    rw [update_eq_insert h.unique he (h.nodup_sequence_queue kind) rfl]
    have hv : Valid (s.erase kind e.id) (e.setVote voter up :: away) := (h.erase he).renumber rfl
    exact others_erase_insert h he rfl (hv.sequence_ne_away List.mem_cons_self)
  | remove id =>
    show others (some id) ((s.remove id).store.queue other) = others (some id) (s.queue other)
    rcases s.remove_cases id with ⟨-, ho⟩ | ⟨kind, e, he, rfl, ho⟩ <;> rw [ho]
    exact others_erase
  | move id target =>
    show others (some id) ((s.move id target).store.queue other) = others (some id) (s.queue other)
    rcases s.move_cases id target with ⟨-, ho⟩ | ⟨kind, e, he, rfl, ⟨-, ho⟩ | ⟨-, ho⟩⟩ <;> rw [ho]
    rw [queue_advance_insert]
    refine others_erase_insert h he rfl fun x hx => UInt64.ne_of_lt ?_
    exact h.sequence_lt x (mem_queue_erase.1 hx).1
  | pop =>
    show others (s.pop.reply.map (·.entry.id)) (s.pop.store.queue other) =
      others (s.pop.reply.map (·.entry.id)) (s.queue other)
    rcases s.pop_cases with ⟨-, ho⟩ | ⟨kind, e, rest, hq, -, ho⟩ <;> rw [ho]
    rw [← erase_head h.unique hq]
    exact others_erase
  | restore popped =>
    show others (some popped.entry.id) ((s.restore popped).store.queue other) =
      others (some popped.entry.id) (s.queue other)
    rcases s.restore_cases popped with ⟨-, ho⟩ | ⟨-, ho⟩ <;> rw [ho]
    exact others_insert h (h.sequence_ne_away (haway popped rfl))
  | setNowPlaying playback => cases other <;> rfl

/-- A new entry has no votes and the greatest number, so that all others outrank it. -/
theorem queue_enqueue {track : Track} (h : s.Valid away) (hok : (s.enqueue track kind).reply = .ok ()) :
    (s.enqueue track kind).store.queue kind = s.queue kind ++ [.new track s.nextSequence] := by
  rcases s.enqueue_cases track kind with ⟨_, _, -, -, ho⟩ | ⟨-, ho⟩ <;> rw [ho] at hok ⊢
  · cases hok
  · rw [queue_advance_insert]
    have hput : PutBehind (·.Outranks (.new track s.nextSequence)) _ (s.queue kind) _ :=
      putBehind_insert h fun x hx => UInt64.ne_of_lt (h.sequence_lt x hx)
    refine hput.eq_concat fun x hx => ?_
    rcases Nat.eq_zero_or_pos x.score with hzero | hpos
    · exact Or.inr ⟨hzero, h.sequence_lt x hx⟩
    · exact Or.inl hpos

/-- A moved entry keeps its votes and gets the greatest number, so that those with as many votes outrank it. -/
theorem putBehind_move {source target : Kind} (h : s.Valid away) (he : e ∈ s.queue source)
    (hne : source ≠ target) :
    PutBehind (fun x => e.score ≤ x.score) { e with sequence := s.nextSequence } (s.queue target)
        ((s.move e.id target).store.queue target) ∧
      (s.move e.id target).store.queue source = others (some e.id) (s.queue source) := by
  have hmove : (s.move e.id target).store =
      (s.erase source e.id).advance.insert target { e with sequence := s.nextSequence } := by
    unfold move
    rw [(locate_eq_some_iff h.unique).2 ⟨he, rfl⟩]
    exact congrArg Outcome.store (if_neg hne)
  have htarget : (s.erase source e.id).queue target = s.queue target := queue_setQueue_of_ne _ _ (Ne.symm hne)
  have hlt : ∀ x ∈ (s.erase source e.id).queue target, x.sequence < s.nextSequence := by
    rw [htarget]
    exact h.sequence_lt
  rw [hmove, queue_advance_insert, queue_advance_insert]
  constructor
  · rw [← htarget]
    refine (putBehind_insert (h.erase he) fun x hx => UInt64.ne_of_lt (hlt x hx)).congr fun x hx => ?_
    show e.score < x.score ∨ x.score = e.score ∧ x.sequence < s.nextSequence ↔ e.score ≤ x.score
    have := hlt x hx
    grind
  · rw [← queue_erase]
    exact queue_setQueue_of_ne _ _ hne

/-- A vote that stands already does not change the score. -/
theorem score_setVote_of_stands {voter : SessionId} {up : Bool} (h : e.votes.changes voter up = false) :
    (e.setVote voter up).score = e.score := by
  have hstands : decide (voter ∈ e.votes) = up := by simpa [Voters.changes] using h
  unfold Entry.setVote Entry.score Voters.set
  cases up with
  | true =>
    have hmem : voter ∈ e.votes.toList := of_decide_eq_true hstands
    simp [Voters.insert, hmem]
  | false =>
    have hmem : voter ∉ e.votes.toList := of_decide_eq_false hstands
    simp [Voters.count, Voters.erase, List.erase_of_not_mem hmem]

/-- An entry whose score a vote changes goes behind those that outrank it with that score. -/
theorem putBehind_vote {voter : SessionId} {up : Bool} (h : s.Valid away) (he : e ∈ s.queue kind)
    (hscore : (e.setVote voter up).score ≠ e.score) :
    PutBehind (·.Outranks (e.setVote voter up)) (e.setVote voter up) (others (some e.id) (s.queue kind))
      ((s.vote e.id voter up).store.queue kind) := by
  have hchanges : e.votes.changes voter up = true := by
    by_contra hstands
    exact hscore (score_setVote_of_stands (Bool.eq_false_iff.2 hstands))
  have hvote : (s.vote e.id voter up).store = s.update kind e.id (·.setVote voter up) := by
    unfold vote
    rw [(locate_eq_some_iff h.unique).2 ⟨he, rfl⟩]
    exact congrArg Outcome.store (if_pos hchanges)
  rw [hvote, update_eq_insert h.unique he (h.nodup_sequence_queue kind) rfl, ← queue_erase]
  have hv : Valid (s.erase kind e.id) (e.setVote voter up :: away) := (h.erase he).renumber rfl
  exact putBehind_insert hv (hv.sequence_ne_away List.mem_cons_self)

end Store

namespace Ledger

open Store (Operation)

/-- **Only the subject moves, and to its place.**  In queues in use, before the sequence numbers run out, every
operation leaves the entries of all other tracks in their queues, as they are and in their order.  A track that
is added comes at the end; a track that changes its queue comes behind those with at least its votes and leaves
the other queue; and a track whose number of votes changes comes behind those that outrank it then. -/
theorem others_kept_subject_placed {l : Ledger} (hl : l.Reachable) (hg : l.given < UInt64.size) :
    let s := l.store
    (∀ op : Operation, l.Allows op → ∀ kind,
      others (op.subject s) ((s.apply op).store.queue kind) = others (op.subject s) (s.queue kind)) ∧
    (∀ (track : Track) (kind : Kind), (s.enqueue track kind).reply = .ok () →
      (s.enqueue track kind).store.queue kind = s.queue kind ++ [.new track s.nextSequence]) ∧
    (∀ (source target : Kind), ∀ e ∈ s.queue source, source ≠ target →
      PutBehind (fun x => e.score ≤ x.score) { e with sequence := s.nextSequence } (s.queue target)
          ((s.move e.id target).store.queue target) ∧
        (s.move e.id target).store.queue source = others (some e.id) (s.queue source)) ∧
    ∀ (kind : Kind), ∀ e ∈ s.queue kind, ∀ (voter : SessionId) (up : Bool),
      (e.setVote voter up).score ≠ e.score →
      PutBehind (·.Outranks (e.setVote voter up)) (e.setVote voter up) (others (some e.id) (s.queue kind))
        ((s.vote e.id voter up).store.queue kind) := by
  intro s
  have hv := (hl.valid hg).1
  refine ⟨fun op hop kind => Store.others_apply hv ?_, fun track kind hok => Store.queue_enqueue hv hok,
    fun source target e he hne => Store.putBehind_move hv he hne,
    fun kind e he voter up hscore => Store.putBehind_vote hv he hscore⟩
  rintro popped rfl
  exact List.mem_map_of_mem hop

/-- Four tracks wait, of which `b` and `c` have one vote each: `b` changes its queue, or else `d` is voted for. -/
theorem others_kept_subject_placed_tier :
    let track (name : String) : Track := ⟨⟨name⟩, name, "", "", 1000, ""⟩
    let l := [Operation.enqueue (track "a") .normal, .enqueue (track "c") .normal, .enqueue (track "d") .normal,
      .enqueue (track "b") .admin, .vote ⟨"b"⟩ ⟨"s"⟩ true, .vote ⟨"c"⟩ ⟨"s"⟩ true].foldl Ledger.perform .start
    l.Reachable ∧ l.given < UInt64.size ∧
      (∃ e ∈ l.store.queue .admin, e.id = ⟨"b"⟩ ∧
        PutBehind (fun x => e.score ≤ x.score) { e with sequence := l.store.nextSequence }
          (l.store.queue .normal) ((l.store.move e.id .normal).store.queue .normal)) ∧
      (l.store.move ⟨"b"⟩ .normal).store.normal.map Entry.id = [⟨"c"⟩, ⟨"b"⟩, ⟨"a"⟩, ⟨"d"⟩] ∧
      ∃ e ∈ l.store.queue .normal, e.id = ⟨"d"⟩ ∧ (e.setVote ⟨"s"⟩ true).score ≠ e.score ∧
        PutBehind (·.Outranks (e.setVote ⟨"s"⟩ true)) (e.setVote ⟨"s"⟩ true)
          (others (some e.id) (l.store.queue .normal)) ((l.store.vote e.id ⟨"s"⟩ true).store.queue .normal) := by
  intro track l
  have hl : l.Reachable :=
    .perform _ (.perform _ (.perform _ (.perform _ (.perform _ (.perform _ .start trivial) trivial) trivial) trivial)
      trivial) trivial
  have hg : l.given < UInt64.size := by cbv
  obtain ⟨-, -, hmove, hvote⟩ := others_kept_subject_placed hl hg
  have hb : (⟨track "b", ⟨[⟨"s"⟩], by decide⟩, 3⟩ : Entry) ∈ l.store.queue .admin := by
    cbv
    exact List.Mem.head _
  have hd : (.new (track "d") 2 : Entry) ∈ l.store.queue .normal := by
    cbv
    exact List.Mem.tail _ (List.Mem.tail _ (List.Mem.head _))
  have hscore : ((Entry.new (track "d") 2).setVote ⟨"s"⟩ true).score ≠ (Entry.new (track "d") 2).score := by cbv
  exact ⟨hl, hg, ⟨_, hb, rfl, (hmove _ _ _ hb (by decide)).1⟩, by cbv, _, hd, rfl, hscore, hvote _ _ hd _ _ hscore⟩

end Ledger
end Jukebox.Queue
