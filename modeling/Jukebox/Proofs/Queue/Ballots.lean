import Jukebox.Proofs.Queue.Invariant
import Mathlib.Data.List.Dedup

/-!
# Who votes for an entry

The queues keep only who votes for an entry now.  A `Register` beside them remembers every vote that was
ever accepted, and for which entry.  There an entry is known by the number that it was created with; the
register follows it when it is moved and gets another number (`Register.origin`).

Main statement: of every entry that waits or is away, the voters are those whose last accepted vote on
this entry was up (`Voting.Reachable.agrees`).  An entry starts without votes even if an earlier entry of
the same track had some, since no vote can have been cast on a number that is not given out yet.
-/

namespace Jukebox.Queue

open Store (Operation)

/-- A vote that was accepted. -/
structure Ballot where
  /-- The number with which the entry was created. -/
  entry : UInt64
  voter : SessionId
  /-- The vote was set and not withdrawn. -/
  up : Bool
deriving DecidableEq

/-- The votes that were ever accepted. -/
structure Register where
  /-- The number with which the entry that now has a number was created. -/
  origin : UInt64 → UInt64
  /-- The accepted votes, the newest first. -/
  ballots : List Ballot

namespace Register

/-- Nobody has voted. -/
def blank : Register :=
  ⟨id, []⟩

/-- The last vote of a session on the entry that was created with a number. -/
def last (r : Register) (created : UInt64) (voter : SessionId) : Option Bool :=
  (r.ballots.find? fun b => b.entry == created && b.voter == voter).map Ballot.up

/-- The last vote of a session on the entry. -/
def lastVote (r : Register) (e : Entry) (voter : SessionId) : Option Bool :=
  r.last (r.origin e.sequence) voter

/-- The sessions whose last vote on the entry was up. -/
def supporters (r : Register) (e : Entry) : List SessionId :=
  (r.ballots.map Ballot.voter).dedup.filter fun voter => r.lastVote e voter == some true

/-- The number `n` is given to the entry that was created with a number. -/
def assign (r : Register) (n created : UInt64) : Register :=
  { r with origin := Function.update r.origin n created }

/-- A vote on the entry of the number `n` is accepted. -/
def cast (r : Register) (n : UInt64) (voter : SessionId) (up : Bool) : Register :=
  { r with ballots := ⟨r.origin n, voter, up⟩ :: r.ballots }

/-- What an operation on the store adds to the register. -/
def record (r : Register) (s : Store) : Operation → Register
  | .enqueue track kind =>
    match (s.enqueue track kind).reply with
    | .ok () => r.assign s.nextSequence s.nextSequence
    | .error _ => r
  | .vote id voter up =>
    match (s.vote id voter up).reply, s.locate id with
    | .ok (), some (_, e) => r.cast e.sequence voter up
    | _, _ => r
  | .move id target =>
    match s.locate id with
    | some (source, e) =>
      if source = target then r else r.assign s.nextSequence (r.origin e.sequence)
    | none => r
  | .remove _ | .pop | .restore _ | .setNowPlaying _ => r

variable {r : Register} {e : Entry} {voter : SessionId} {n created : UInt64}

theorem origin_assign_self : (r.assign n created).origin n = created :=
  Function.update_self _ _ _

theorem origin_assign_of_ne {m : UInt64} (h : m ≠ n) : (r.assign n created).origin m = r.origin m :=
  Function.update_of_ne h _ _

theorem last_cast {x : SessionId} {up : Bool} :
    (r.cast n voter up).last created x =
      if r.origin n = created ∧ voter = x then some up else r.last created x := by
  unfold last cast
  rw [List.find?_cons]
  split
  · next h => rw [if_pos (by simpa using h)]; rfl
  · next h => rw [if_neg (by simpa using h)]

/-- The last vote is one that was accepted. -/
theorem mem_voters_of_last {up : Bool} (h : r.last created voter = some up) :
    voter ∈ r.ballots.map Ballot.voter := by
  obtain ⟨b, hb, -⟩ := Option.map_eq_some_iff.1 h
  have hvoter := List.find?_some hb
  rw [Bool.and_eq_true, beq_iff_eq, beq_iff_eq] at hvoter
  exact List.mem_map.2 ⟨b, List.mem_of_find?_eq_some hb, hvoter.2⟩

theorem mem_supporters : voter ∈ r.supporters e ↔ r.lastVote e voter = some true := by
  unfold supporters
  rw [List.mem_filter, List.mem_dedup, beq_iff_eq]
  exact ⟨And.right, fun h => ⟨mem_voters_of_last h, h⟩⟩

theorem nodup_supporters (r : Register) (e : Entry) : (r.supporters e).Nodup :=
  (List.nodup_dedup _).filter _

end Register

/-! ## The tally -/

/-- The votes of some entries are what the register says; `next` is the next number. -/
structure Tallied (r : Register) (next : UInt64) (es : List Entry) : Prop where
  counted : ∀ e ∈ es, ∀ voter, voter ∈ e.votes ↔ r.lastVote e voter = some true
  /-- No two entries were created with the same number. -/
  distinct : (es.map fun e => r.origin e.sequence).Nodup
  created : ∀ e ∈ es, r.origin e.sequence < next
  past : ∀ b ∈ r.ballots, b.entry < next

namespace Tallied

variable {r : Register} {next later : UInt64} {es es' : List Entry} {e e' : Entry}

theorem score_eq (h : Tallied r next es) (he : e ∈ es) : e.score = (r.supporters e).length := by
  have hp : e.votes.toList.Perm (r.supporters e) :=
    (List.perm_ext_iff_of_nodup e.votes.nodup (r.nodup_supporters e)).2 fun voter => by
      rw [Register.mem_supporters]
      exact h.counted e he voter
  exact hp.length_eq

theorem perm (h : Tallied r next es) (hp : es'.Perm es) : Tallied r next es' where
  counted x hx := h.counted x (hp.mem_iff.1 hx)
  distinct := (hp.map _).nodup_iff.2 h.distinct
  created x hx := h.created x (hp.mem_iff.1 hx)
  past := h.past

theorem tail (h : Tallied r next (e :: es)) : Tallied r next es where
  counted x hx := h.counted x (List.mem_cons_of_mem _ hx)
  distinct := (List.nodup_cons.1 h.distinct).2
  created x hx := h.created x (List.mem_cons_of_mem _ hx)
  past := h.past

theorem origin_ne (h : Tallied r next (e :: es)) :
    ∀ x ∈ es, r.origin x.sequence ≠ r.origin e.sequence := fun x hx heq =>
  (List.nodup_cons.1 h.distinct).1 (List.mem_map.2 ⟨x, hx, heq⟩)

/-- No vote was ever cast on an entry that is not created yet. -/
theorem last_next (h : Tallied r next es) (voter : SessionId) : r.last next voter = none := by
  unfold Register.last
  rw [Option.map_eq_none_iff, List.find?_eq_none]
  intro b hb heq
  rw [Bool.and_eq_true, beq_iff_eq] at heq
  have hlt := h.past b hb
  rw [heq.1] at hlt
  exact UInt64.lt_irrefl _ hlt

/-- The next number is given to an entry that is not among the others. -/
theorem assign {n : UInt64} (h : Tallied r next es) (hissued : ∀ x ∈ es, x.sequence < next)
    (hlater : next < later) (hseq : e.sequence = next) (hn : n < later)
    (hother : ∀ x ∈ es, r.origin x.sequence ≠ n)
    (hcounted : ∀ voter, voter ∈ e.votes ↔ r.last n voter = some true) :
    Tallied (r.assign next n) later (e :: es) := by
  have hself : (r.assign next n).origin e.sequence = n := by
    rw [hseq]
    exact Register.origin_assign_self
  have hsame : ∀ x ∈ es, (r.assign next n).origin x.sequence = r.origin x.sequence := by
    intro x hx
    exact Register.origin_assign_of_ne (UInt64.ne_of_lt (hissued x hx))
  refine ⟨?_, ?_, ?_, fun b hb => UInt64.lt_trans (h.past b hb) hlater⟩
  · refine List.forall_mem_cons.2 ⟨fun voter => ?_, fun x hx voter => ?_⟩
    · rw [Register.lastVote, hself]
      exact hcounted voter
    · rw [Register.lastVote, hsame x hx]
      exact h.counted x hx voter
  · rw [List.map_cons, List.map_congr_left hsame, hself, List.nodup_cons, List.mem_map]
    exact ⟨fun ⟨x, hx, heq⟩ => hother x hx heq, h.distinct⟩
  · refine List.forall_mem_cons.2 ⟨by rwa [hself], fun x hx => ?_⟩
    rw [hsame x hx]
    exact UInt64.lt_trans (h.created x hx) hlater

/-- A new entry starts without votes. -/
theorem create (h : Tallied r next es) (hissued : ∀ x ∈ es, x.sequence < next)
    (hlater : next < later) (track : Track) :
    Tallied (r.assign next next) later (.new track next :: es) := by
  refine h.assign hissued hlater rfl hlater (fun x hx => UInt64.ne_of_lt (h.created x hx)) ?_
  intro voter
  rw [h.last_next]
  exact ⟨fun hv => absurd hv (Voters.not_mem_empty voter), nofun⟩

/-- An entry that gets another number keeps its votes. -/
theorem renumber (h : Tallied r next (e :: es)) (hissued : ∀ x ∈ es, x.sequence < next)
    (hlater : next < later) :
    Tallied (r.assign next (r.origin e.sequence)) later ({ e with sequence := next } :: es) :=
  h.tail.assign hissued hlater rfl (UInt64.lt_trans (h.created e List.mem_cons_self) hlater)
    h.origin_ne (h.counted e List.mem_cons_self)

/-- A vote counts for one entry and one voter only. -/
theorem cast {voter : SessionId} {up : Bool} (h : Tallied r next (e :: es))
    (hseq : e'.sequence = e.sequence)
    (hvotes : ∀ x, x ∈ e'.votes ↔ if x = voter then up = true else x ∈ e.votes) :
    Tallied (r.cast e.sequence voter up) next (e' :: es) := by
  refine ⟨?_, ?_, ?_, ?_⟩
  · refine List.forall_mem_cons.2 ⟨fun x => ?_, fun y hy x => ?_⟩
    · rw [Register.lastVote, hseq, Register.last_cast, hvotes]
      by_cases hx : x = voter
      · rw [if_pos hx, if_pos ⟨rfl, hx.symm⟩, Option.some_inj]
      · rw [if_neg hx, if_neg fun hc => hx hc.2.symm]
        exact h.counted e List.mem_cons_self x
    · rw [Register.lastVote, Register.last_cast, if_neg fun hc => h.origin_ne y hy hc.1.symm]
      exact h.counted y (List.mem_cons_of_mem _ hy) x
  · have hd := h.distinct
    rw [List.map_cons] at hd ⊢
    rw [hseq]
    exact hd
  · have hc := List.forall_mem_cons.1 h.created
    exact List.forall_mem_cons.2 ⟨by rw [hseq]; exact hc.1, hc.2⟩
  · exact List.forall_mem_cons.2 ⟨h.created e List.mem_cons_self, h.past⟩

end Tallied

/-! ## One lemma for each operation -/

namespace Store

/-- The register and the store agree on all entries, including those that are away. -/
def Agrees (s : Store) (r : Register) (away : List Entry) : Prop :=
  Tallied r s.nextSequence (s.entries ++ away)

namespace Agrees

variable {s : Store} {r : Register} {away : List Entry} {kind : Kind} {e : Entry}

theorem taken (h : s.Agrees r away) (hu : (s.entries.map Entry.id).Nodup) (he : e ∈ s.queue kind) :
    Tallied r s.nextSequence (e :: ((s.erase kind e.id).entries ++ away)) :=
  h.perm ((entries_erase hu he).append_right away).symm

theorem put (h : Tallied r s.nextSequence (e :: (s.entries ++ away))) :
    (s.insert kind e).Agrees r away := by
  unfold Agrees
  rw [Store.insert, nextSequence_setQueue]
  exact h.perm ((entries_insert s kind e).append_right away)

theorem lt_advance (hn : s.nextSequence.toNat + 1 < UInt64.size) :
    s.nextSequence < s.advance.nextSequence := by
  rw [UInt64.lt_iff_toNat_lt, Valid.toNat_advance hn]
  exact Nat.lt_succ_self _

theorem enqueue (hv : s.Valid away) (h : s.Agrees r away) (track : Track) (kind : Kind)
    (hn : (s.enqueue track kind).takesNumber → s.nextSequence.toNat + 1 < UInt64.size) :
    (s.enqueue track kind).store.Agrees (r.record s (.enqueue track kind)) away := by
  simp only [Register.record]
  rcases s.enqueue_cases track kind with ⟨_, _, -, -, ho⟩ | ⟨-, ho⟩ <;> rw [ho] at hn ⊢
  · exact h
  · exact put (h.create hv.issued (lt_advance (hn rfl)) track)

theorem vote (hv : s.Valid away) (h : s.Agrees r away) (id : TrackId) (voter : SessionId) (up : Bool) :
    (s.vote id voter up).store.Agrees (r.record s (.vote id voter up)) away := by
  simp only [Register.record]
  rcases s.vote_cases id voter up with ⟨-, ho⟩ | ⟨kind, e, he, rfl, hchanges⟩
  · rw [ho]
    exact h
  · have hl := (locate_eq_some_iff hv.unique).2 ⟨he, rfl⟩
    have ht := h.taken hv.unique he
    rcases hchanges with ⟨hc, ho⟩ | ⟨-, ho⟩ <;> rw [ho, hl]
    · -- The vote stood already, so the register learns nothing new.
      have hvotes : ∀ x, x ∈ e.votes ↔ if x = voter then up = true else x ∈ e.votes := by
        intro x
        by_cases hx : x = voter
        · have hstands : decide (voter ∈ e.votes) = up := by simpa [Voters.changes] using hc
          rw [if_pos hx, hx, ← hstands, decide_eq_true_iff]
        · rw [if_neg hx]
      exact (ht.cast rfl hvotes).perm ((entries_erase hv.unique he).append_right away)
    · rw [update_eq_insert hv.unique he (hv.nodup_sequence_queue kind) rfl]
      have hn : (s.erase kind e.id).nextSequence = s.nextSequence := nextSequence_setQueue _ _ _
      rw [← hn] at ht
      exact put (ht.cast rfl fun x => Voters.mem_set)

theorem move (hv : s.Valid away) (h : s.Agrees r away) (id : TrackId) (target : Kind)
    (hn : (s.move id target).takesNumber → s.nextSequence.toNat + 1 < UInt64.size) :
    (s.move id target).store.Agrees (r.record s (.move id target)) away := by
  simp only [Register.record]
  rcases s.move_cases id target with ⟨hne, ho⟩ | ⟨kind, e, he, rfl, hmoves⟩
  · rw [ho, locate_eq_none.2 hne]
    exact h
  · have hl := (locate_eq_some_iff hv.unique).2 ⟨he, rfl⟩
    rcases hmoves with ⟨hk, ho⟩ | ⟨hk, ho⟩ <;> rw [ho] at hn ⊢ <;> rw [hl]
    · simp only [if_pos hk]
      exact h
    · simp only [if_neg hk]
      have hissued : ∀ x ∈ (s.erase kind e.id).entries ++ away, x.sequence < s.nextSequence :=
        fun x hx => hv.issued x (((entries_erase hv.unique he).append_right away).mem_iff.2
          (List.mem_cons_of_mem _ hx))
      have hnext : (s.erase kind e.id).nextSequence = s.nextSequence := nextSequence_setQueue _ _ _
      have hlt := lt_advance (s := s.erase kind e.id) (by rw [hnext]; exact hn rfl)
      rw [hnext] at hlt
      exact put ((h.taken hv.unique he).renumber hissued hlt)

theorem remove (hv : s.Valid away) (h : s.Agrees r away) (id : TrackId) :
    (s.remove id).store.Agrees r away := by
  rcases s.remove_cases id with ⟨-, ho⟩ | ⟨kind, e, he, rfl, ho⟩ <;> rw [ho]
  · exact h
  · have ht := (h.taken hv.unique he).tail
    unfold Agrees
    rwa [Store.erase, nextSequence_setQueue]

theorem pop (h : s.Agrees r away) :
    s.pop.store.Agrees r (s.pop.reply.toList.map Popped.entry ++ away) := by
  rcases s.pop_cases with ⟨-, ho⟩ | ⟨kind, e, rest, -, hentries, ho⟩ <;> rw [ho]
  · exact h
  · unfold Agrees at h ⊢
    rw [hentries] at h
    rw [nextSequence_setQueue]
    exact h.perm List.perm_middle

theorem restore {p : Popped} (h : s.Agrees r (p.entry :: away)) :
    (s.restore p).store.Agrees r (if (s.restore p).reply then away else p.entry :: away) := by
  rcases s.restore_cases p with ⟨-, ho⟩ | ⟨-, ho⟩ <;> rw [ho]
  · exact h
  · exact put (h.perm List.perm_middle.symm)

end Agrees
end Store

/-! ## Runs -/

/-- A store in use and the register beside it. -/
structure Voting where
  ledger : Ledger
  register : Register

namespace Voting

/-- Nothing was done yet. -/
def start : Voting :=
  ⟨.start, .blank⟩

/-- Ledger and register after an operation. -/
def perform (v : Voting) (op : Operation) : Voting :=
  ⟨v.ledger.perform op, v.register.record v.ledger.store op⟩

/-- What finitely many operations lead to; an entry that was popped comes back at most once. -/
inductive Reachable : Voting → Prop
  | start : Reachable .start
  | perform {v : Voting} (op : Operation) :
      Reachable v → v.ledger.Allows op → Reachable (v.perform op)

theorem Reachable.ledger {v : Voting} (h : v.Reachable) : v.ledger.Reachable := by
  induction h with
  | start => exact .start
  | perform op _ ha ih => exact ih.perform op ha

theorem agrees_perform {v : Voting} {op : Operation} (ha : v.ledger.Allows op)
    (hv : v.ledger.store.Valid (v.ledger.away.map Popped.entry))
    (hn : (v.ledger.store.apply op).takesNumber →
      v.ledger.store.nextSequence.toNat + 1 < UInt64.size)
    (h : v.ledger.store.Agrees v.register (v.ledger.away.map Popped.entry)) :
    (v.perform op).ledger.store.Agrees (v.perform op).register
      ((v.perform op).ledger.away.map Popped.entry) := by
  cases op with
  | enqueue track kind => exact h.enqueue hv track kind hn
  | vote id voter up => exact h.vote hv id voter up
  | remove id => exact h.remove hv id
  | move id target => exact h.move hv id target hn
  | pop =>
    simp only [perform, Ledger.perform, List.map_append]
    exact h.pop
  | restore p =>
    have hp : (v.ledger.away.map Popped.entry).Perm
        (p.entry :: (v.ledger.away.erase p).map Popped.entry) := (List.perm_cons_erase ha).map _
    have hr := Store.Agrees.restore (Tallied.perm h (hp.symm.append_left _))
    simp only [perform, Ledger.perform]
    split
    · next hreply => rwa [if_pos hreply] at hr
    · next hreply =>
      rw [if_neg hreply] at hr
      exact Tallied.perm hr (hp.append_left _)
  | setNowPlaying playback => exact h

/-- Register and store agree throughout, as long as there are numbers left. -/
theorem Reachable.agrees {v : Voting} (h : v.Reachable) (hg : v.ledger.given < UInt64.size) :
    v.ledger.store.Agrees v.register (v.ledger.away.map Popped.entry) := by
  induction h with
  | start => exact ⟨nofun, List.nodup_nil, nofun, nofun⟩
  | @perform v op hreach ha ih =>
    have hle : v.ledger.given ≤ (v.perform op).ledger.given := Nat.le_add_right _ _
    have hbefore := Nat.lt_of_le_of_lt hle hg
    exact agrees_perform ha (hreach.ledger.valid hbefore).1 (hreach.ledger.room op hg) (ih hbefore)

end Voting
end Jukebox.Queue
