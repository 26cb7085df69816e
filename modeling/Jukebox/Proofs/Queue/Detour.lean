import Jukebox.Proofs.Queue.Invariant

/-!
# An entry that was away for a while

An entry is popped, other operations follow, and then it is restored.  If none of them names its track,
nobody can tell afterwards that it was away (`restore_after_detour`): all answers are the ones that would
have been given otherwise, and so is the store.  For putting an entry in commutes with every operation
that `Spares` its track:

    (s.insert kind e).apply op = (s.apply op).withEntry kind e      (apply_insert)

This rests on ranks being strict: the place of an entry does not depend on when it is put in.
-/

namespace Jukebox.Queue.Store

variable {s : Store} {kind : Kind} {e : Entry} {id : TrackId}

/-- The operation does not name the track, takes no other one off for playback and brings none back. -/
def Operation.Spares (id : TrackId) : Operation → Prop
  | .enqueue track _ => track.id ≠ id
  | .vote other _ _ | .remove other | .move other _ => other ≠ id
  | .setNowPlaying _ => True
  | .pop | .restore _ => False

/-- The outcome with one entry more in the store. -/
def Outcome.withEntry {α : Type} (o : Outcome α) (kind : Kind) (e : Entry) : Outcome α :=
  { o with store := o.store.insert kind e }

/-! ## Where an entry is found -/

theorem mem_queue_insert {other : Kind} {x : Entry} :
    x ∈ (s.insert kind e).queue other ↔ x ∈ s.queue other ∨ other = kind ∧ x = e := by
  unfold insert
  by_cases hk : other = kind
  · subst hk
    rw [queue_setQueue, Entry.mem_rank, List.mem_append, List.mem_singleton]
    simp
  · rw [queue_setQueue_of_ne _ _ hk]
    simp [hk]

/-! ## Putting an entry in commutes -/

/-- The entry is away, and its track does not wait. -/
structure Out (s : Store) (e : Entry) : Prop where
  valid : s.Valid [e]
  absent : ∀ x ∈ s.entries, x.id ≠ e.id

theorem Out.valid_insert (h : Out s e) (kind : Kind) : (s.insert kind e).Valid [] :=
  h.valid.insert h.absent

theorem out_of_insert (hv : s.Valid [e]) (hu : ((s.insert kind e).entries.map Entry.id).Nodup) :
    Out s e where
  valid := hv
  absent := id_ne_of_nodup (((entries_insert s kind e).map Entry.id).nodup_iff.1 hu)

theorem locate_insert (h : Out s e) (hid : id ≠ e.id) :
    (s.insert kind e).locate id = s.locate id := by
  ext ⟨other, x⟩
  rw [locate_eq_some_iff (h.valid_insert kind).unique, locate_eq_some_iff h.valid.unique,
    mem_queue_insert]
  constructor
  · rintro ⟨hx | ⟨-, rfl⟩, rfl⟩
    · exact ⟨hx, rfl⟩
    · exact absurd rfl hid
  · rintro ⟨hx, rfl⟩
    exact ⟨Or.inl hx, rfl⟩

theorem nextSequence_insert (s : Store) (kind : Kind) (e : Entry) :
    (s.insert kind e).nextSequence = s.nextSequence :=
  nextSequence_setQueue _ _ _

theorem advance_insert (s : Store) (kind : Kind) (e : Entry) :
    (s.insert kind e).advance = s.advance.insert kind e := by
  cases kind <;> rfl

theorem setQueue_comm {other : Kind} (h : other ≠ kind) (es es' : List Entry) :
    (s.setQueue kind es).setQueue other es' = (s.setQueue other es').setQueue kind es := by
  cases kind <;> cases other <;> first | rfl | exact absurd rfl h

theorem insert_insert {other : Kind} {x : Entry} {away : List Entry} (h : s.Valid (x :: e :: away)) :
    (s.insert kind e).insert other x = (s.insert other x).insert kind e := by
  unfold insert
  by_cases hk : other = kind
  · subst hk
    have hsub : (s.queue other ++ [x, e]).Sublist (s.entries ++ x :: e :: away) :=
      (queue_sublist_entries s other).append (((List.nil_sublist away).cons_cons e).cons_cons x)
    have hn : ((s.queue other ++ [x, e]).map Entry.sequence).Nodup := h.distinct.sublist (hsub.map _)
    have hxe : (Entry.rank (s.queue other ++ [x]) ++ [e]).Perm (s.queue other ++ [x, e]) := by
      have hp := (Entry.rank_perm (s.queue other ++ [x])).append_right [e]
      rwa [List.append_assoc] at hp
    have hex : (Entry.rank (s.queue other ++ [e]) ++ [x]).Perm (s.queue other ++ [x, e]) := by
      have hp := (Entry.rank_perm (s.queue other ++ [e])).append_right [x]
      rw [List.append_assoc] at hp
      exact hp.trans ((List.Perm.swap x e []).append_left _)
    rw [queue_setQueue, queue_setQueue, setQueue_setQueue, setQueue_setQueue,
      Entry.rank_congr (hex.trans hxe.symm) ((hex.map _).nodup_iff.2 hn)]
  · rw [queue_setQueue_of_ne _ _ hk, queue_setQueue_of_ne _ _ (Ne.symm hk), setQueue_comm hk]

theorem erase_insert {other : Kind} (h : s.Valid [e]) (hid : id ≠ e.id) :
    (s.insert kind e).erase other id = (s.erase other id).insert kind e := by
  unfold insert erase
  by_cases hk : other = kind
  · subst hk
    have hn : ((s.queue other ++ [e]).map Entry.sequence).Nodup :=
      h.distinct.sublist (((queue_sublist_entries s other).append_right [e]).map _)
    have he : [e].filter (·.id != id) = [e] := List.filter_cons_of_pos (by simpa using hid.symm)
    rw [queue_setQueue, queue_setQueue, setQueue_setQueue, setQueue_setQueue,
      Entry.filter_rank _ hn, List.filter_append, he]
  · rw [queue_setQueue_of_ne _ _ hk, queue_setQueue_of_ne _ _ (Ne.symm hk), setQueue_comm hk]

theorem update_insert {other : Kind} {f : Entry → Entry} {x : Entry} (h : Out s e)
    (hx : x ∈ s.queue other) (hid : x.id ≠ e.id) (hf : (f x).sequence = x.sequence) :
    (s.insert kind e).update other x.id f = (s.update other x.id f).insert kind e := by
  have hv := h.valid_insert kind
  have hx' : x ∈ (s.insert kind e).queue other := mem_queue_insert.2 (Or.inl hx)
  have ho : (s.erase other x.id).Valid [f x, e] := (h.valid.erase hx).renumber hf
  rw [update_eq_insert hv.unique hx' (hv.nodup_sequence_queue other) hf,
    update_eq_insert h.valid.unique hx (h.valid.nodup_sequence_queue other) hf,
    erase_insert h.valid hid, insert_insert ho]

/-! ## Operations -/

theorem enqueue_insert {track : Track} {other : Kind} (h : Out s e) (hid : track.id ≠ e.id)
    (hn : (s.enqueue track other).takesNumber → s.nextSequence.toNat + 1 < UInt64.size) :
    (s.insert kind e).enqueue track other = (s.enqueue track other).withEntry kind e := by
  unfold enqueue at hn ⊢
  rw [locate_insert h hid]
  cases hl : s.locate track.id with
  | some found => rfl
  | none =>
    rw [hl] at hn
    have hfresh : s.advance.Valid [.new track s.nextSequence, e] := h.valid.fresh (hn rfl) rfl
    simp only [Outcome.withEntry, nextSequence_insert, advance_insert, insert_insert hfresh]

theorem vote_insert {voter : SessionId} {up : Bool} (h : Out s e) (hid : id ≠ e.id) :
    (s.insert kind e).vote id voter up = (s.vote id voter up).withEntry kind e := by
  unfold vote
  rw [locate_insert h hid]
  cases hl : s.locate id with
  | none => rfl
  | some found =>
    obtain ⟨other, x⟩ := found
    obtain ⟨hx, rfl⟩ := locate_eq_some hl
    simp only [update_insert h hx hid (f := (·.setVote voter up)) rfl]
    split <;> rfl

theorem remove_insert (h : Out s e) (hid : id ≠ e.id) :
    (s.insert kind e).remove id = (s.remove id).withEntry kind e := by
  unfold remove
  rw [locate_insert h hid]
  cases hl : s.locate id with
  | none => rfl
  | some found => simp only [Outcome.withEntry, erase_insert h.valid hid]

theorem move_insert {target : Kind} (h : Out s e) (hid : id ≠ e.id)
    (hn : (s.move id target).takesNumber → s.nextSequence.toNat + 1 < UInt64.size) :
    (s.insert kind e).move id target = (s.move id target).withEntry kind e := by
  unfold move at hn ⊢
  rw [locate_insert h hid]
  cases hl : s.locate id with
  | none => rfl
  | some found =>
    obtain ⟨source, x⟩ := found
    obtain ⟨hx, rfl⟩ := locate_eq_some hl
    simp only [hl] at hn ⊢
    by_cases hk : source = target
    · rw [if_pos hk, if_pos hk]
      rfl
    · rw [if_neg hk] at hn
      have hnext : (s.erase source x.id).nextSequence = s.nextSequence := nextSequence_setQueue _ _ _
      have hfresh : (s.erase source x.id).advance.Valid [{ x with sequence := s.nextSequence }, e] :=
        (h.valid.erase hx).tail.fresh (by rw [hnext]; exact hn rfl) hnext.symm
      rw [if_neg hk, if_neg hk, nextSequence_insert, erase_insert h.valid hid, advance_insert,
        insert_insert hfresh]
      rfl

theorem setNowPlaying_insert (playback : Option Playback) :
    (s.insert kind e).setNowPlaying playback = (s.setNowPlaying playback).withEntry kind e := by
  cases kind <;> rfl

/-- Putting an entry in commutes with every operation that spares its track. -/
theorem apply_insert {op : Operation} (kind : Kind) (h : Out s e) (hop : op.Spares e.id)
    (hn : (s.apply op).takesNumber → s.nextSequence.toNat + 1 < UInt64.size) :
    (s.insert kind e).apply op = (s.apply op).withEntry kind e := by
  cases op with
  | enqueue track other => exact enqueue_insert h hop hn
  | vote id voter up => exact vote_insert h hop
  | remove id => exact remove_insert h hop
  | move id target => exact move_insert h hop hn
  | setNowPlaying playback => exact setNowPlaying_insert playback
  | pop | restore => exact hop.elim

/-- An operation that spares the track leaves its entry away. -/
theorem valid_apply {op : Operation} {away : List Entry} (h : s.Valid away) (hop : op.Spares id)
    (hn : (s.apply op).takesNumber → s.nextSequence.toNat + 1 < UInt64.size) :
    (s.apply op).store.Valid away := by
  cases op with
  | enqueue track other => exact h.enqueue track other hn
  | vote id voter up => exact h.vote id voter up
  | remove id => exact h.remove id
  | move id target => exact h.move id target hn
  | setNowPlaying playback => exact h.setNowPlaying playback
  | pop | restore => exact hop.elim

theorem Out.apply {op : Operation} (h : Out s e) (hop : op.Spares e.id)
    (hn : (s.apply op).takesNumber → s.nextSequence.toNat + 1 < UInt64.size) :
    Out (s.apply op).store e := by
  have hcommutes := apply_insert .normal h hop hn
  -- With the entry put in, the store is in use, so the track occurs only once.
  have hv : ((s.insert .normal e).apply op).store.Valid [] := by
    refine valid_apply (h.valid_insert .normal) hop ?_
    rw [hcommutes, nextSequence_insert]
    exact hn
  rw [hcommutes] at hv
  exact out_of_insert (valid_apply h.valid hop hn) hv.unique

/-! ## Runs -/

/-- An operation with its answer and with what observers are told of it. -/
structure Report where
  operation : Operation
  reply : operation.Reply
  change : Option Change

/-- Performs operations one after the other. -/
def performAll (s : Store) : List Operation → List Report × Store
  | [] => ([], s)
  | op :: ops =>
    let outcome := s.apply op
    let (reports, s) := outcome.store.performAll ops
    (⟨op, outcome.reply, outcome.change⟩ :: reports, s)

theorem le_given_performs (ops : List Operation) (l : Ledger) :
    l.given ≤ (ops.foldl Ledger.perform l).given := by
  induction ops generalizing l with
  | nil => exact Nat.le_refl _
  | cons op ops ih => exact Nat.le_trans (Nat.le_add_right _ _) (ih (l.perform op))

/-- The operations of a run that spare the track do not notice whether its entry is there. -/
theorem performAll_insert {l : Ledger} {ops : List Operation} (kind : Kind) (hl : l.Reachable)
    (h : Out l.store e) (hops : ∀ op ∈ ops, op.Spares e.id)
    (hg : (ops.foldl Ledger.perform l).given < UInt64.size) :
    (l.store.insert kind e).performAll ops =
        ((l.store.performAll ops).1, (l.store.performAll ops).2.insert kind e) ∧
      Out (l.store.performAll ops).2 e := by
  induction ops generalizing l with
  | nil => exact ⟨rfl, h⟩
  | cons op ops ih =>
    obtain ⟨hop, hops⟩ := List.forall_mem_cons.1 hops
    have hle := le_given_performs ops (l.perform op)
    have hn := hl.room op (Nat.lt_of_le_of_lt hle hg)
    have hallows : l.Allows op := by
      cases op with
      | restore => exact hop.elim
      | _ => trivial
    obtain ⟨hrun, hout⟩ := ih (hl.perform op hallows) (h.apply hop hn) hops hg
    have hrest : ((l.store.apply op).store.insert kind e).performAll ops =
        (((l.store.apply op).store.performAll ops).1,
          ((l.store.apply op).store.performAll ops).2.insert kind e) := hrun
    refine ⟨?_, hout⟩
    simp only [performAll, apply_insert kind h hop hn, Outcome.withEntry, hrest]

theorem restore_of_absent {popped : Popped} (h : ∀ x ∈ s.entries, x.id ≠ popped.entry.id) :
    s.restore popped = ⟨true, some ⟨.restored, popped.entry.id, popped.queue⟩,
      s.insert popped.queue popped.entry⟩ := by
  rcases restore_cases popped s with ⟨⟨x, hx, hid⟩, -⟩ | ⟨-, ho⟩
  · exact absurd hid (h x hx)
  · exact ho

theorem restore_of_contains {popped : Popped} (h : s.contains popped.entry.id = true) :
    s.restore popped = ⟨false, none, s⟩ := by
  unfold restore
  rw [if_pos h]

theorem out_of_pop {popped : Popped} (h : s.Valid []) (hpop : s.pop.reply = some popped) :
    Out s.pop.store popped.entry := by
  have hv := h.pop
  rw [hpop] at hv
  refine ⟨hv, ?_⟩
  rcases s.pop_cases with ⟨-, ho⟩ | ⟨kind, e, rest, -, hentries, ho⟩ <;> rw [ho] at hpop ⊢
  · cases hpop
  · cases hpop
    have hu := h.unique
    rw [hentries] at hu
    exact id_ne_of_nodup hu

/-- An entry that was popped, put in again, gives the store before. -/
theorem insert_pop {popped : Popped} (h : s.Valid []) (hpop : s.pop.reply = some popped) :
    s.pop.store.insert popped.queue popped.entry = s := by
  have hback := h.restore_pop (pop_eq_some hpop)
  rwa [restore_of_absent (out_of_pop h hpop).absent] at hback

theorem exists_pop (h : s.isEmpty = false) : ∃ popped, s.pop.reply = some popped := by
  rcases s.pop_cases with ⟨hnil, -⟩ | ⟨kind, e, rest, -, -, ho⟩
  · obtain ⟨ha, hn⟩ := List.append_eq_nil_iff.1 hnil
    unfold isEmpty at h
    rw [ha, hn] at h
    cases h
  · exact ⟨_, by rw [ho]⟩

/-- **A failed play leaves no trace.**  From queues in use that are not empty an entry can be popped.
If operations follow that spare its track, before the sequence numbers run out, then it can be restored:
all operations were answered, and observers told, as if it had never been away, and the store is the one
that the operations alone would have led to.  Where its track was queued again meanwhile, the entry is
not restored and nothing changes. -/
theorem restore_after_detour {l : Ledger} (hl : l.Reachable) (hsome : l.store.isEmpty = false) :
    ∃ popped, l.store.pop.reply = some popped ∧
      (∀ ops : List Operation, (∀ op ∈ ops, op.Spares popped.entry.id) →
        (ops.foldl Ledger.perform (l.perform .pop)).given < UInt64.size →
        let detour := l.store.pop.store.performAll ops
        let alone := l.store.performAll ops
        detour.1 = alone.1 ∧ (detour.2.restore popped).reply = true ∧
          (detour.2.restore popped).store = alone.2) ∧
      ∀ s : Store, s.contains popped.entry.id = true → s.restore popped = ⟨false, none, s⟩ := by
  obtain ⟨popped, hpop⟩ := exists_pop hsome
  refine ⟨popped, hpop, ?_, fun s hs => restore_of_contains hs⟩
  intro ops hops hg detour alone
  have hpopped : (l.perform .pop).Reachable := hl.perform .pop trivial
  have hle : l.given ≤ (l.perform .pop).given := Nat.le_add_right _ _
  have hle' := le_given_performs ops (l.perform .pop)
  have hv : l.store.Valid [] := (hl.valid (by omega)).1.forget
  have hout := out_of_pop hv hpop
  obtain ⟨hrun, hstill⟩ := performAll_insert popped.queue hpopped hout hops hg
  have halone : alone = (detour.1, detour.2.insert popped.queue popped.entry) :=
    (congrArg (performAll · ops) (insert_pop hv hpop).symm).trans hrun
  have hrestore := restore_of_absent (s := detour.2) hstill.absent
  rw [hrestore, halone]
  exact ⟨rfl, rfl, rfl⟩

/-- While the entry of `a` is away, `b` overtakes it, and `c` comes and changes its queue. -/
theorem restore_after_detour_overtaken :
    let a : Track := ⟨⟨"a"⟩, "A", "", "", 1000, ""⟩
    let b : Track := ⟨⟨"b"⟩, "B", "", "", 1000, ""⟩
    let c : Track := ⟨⟨"c"⟩, "C", "", "", 1000, ""⟩
    let l := [Operation.enqueue a .normal, .enqueue b .normal].foldl Ledger.perform .start
    let ops : List Operation :=
      [.vote ⟨"b"⟩ ⟨"s"⟩ true, .enqueue c .admin, .move ⟨"c"⟩ .normal, .remove ⟨"d"⟩]
    l.Reachable ∧ l.store.isEmpty = false ∧
      ∃ popped, l.store.pop.reply = some popped ∧ popped.entry.id = ⟨"a"⟩ ∧
        (∀ op ∈ ops, op.Spares popped.entry.id) ∧
        (ops.foldl Ledger.perform (l.perform .pop)).given < UInt64.size ∧
        ((l.store.pop.store.performAll ops).2.restore popped).store = (l.store.performAll ops).2 ∧
        (l.store.performAll ops).2.normal.map Entry.id = [⟨"b"⟩, ⟨"a"⟩, ⟨"c"⟩] := by
  intro a b c l ops
  have hl : l.Reachable := .perform _ (.perform _ .start trivial) trivial
  have hsome : l.store.isEmpty = false := by cbv
  obtain ⟨popped, hpop, hdetour, -⟩ := restore_after_detour hl hsome
  have hreply : l.store.pop.reply = some ⟨.new a 0, .normal⟩ := by cbv
  have ha : popped.entry.id = ⟨"a"⟩ := by
    rw [hreply, Option.some_inj] at hpop
    rw [← hpop]
    rfl
  have hops : ∀ op ∈ ops, op.Spares popped.entry.id := by
    rw [ha]
    simp [ops, Operation.Spares, c]
  have hg : (ops.foldl Ledger.perform (l.perform .pop)).given < UInt64.size := by cbv
  exact ⟨hl, hsome, popped, hpop, ha, hops, hg, (hdetour ops hops hg).2.2, by cbv⟩

end Jukebox.Queue.Store
