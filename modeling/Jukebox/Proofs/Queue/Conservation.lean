import Jukebox.Proofs.Queue.Contents
import Jukebox.Proofs.Trace

/-!
# What comes in goes out once

Operations on the queues are performed one after the other, in whatever order they are asked for.  Here
a run of them is what the store answered (`Program.Served serve s t s'`), and the names that it put in
and took out are read off the answers alone.  They balance, name by name (`balanced`):

    enqueued t + restored t + (waits in s)  =  removed t + popped t + (waits in s')

So of several attempts to enqueue one track, as long as nothing takes it out or brings it back, the first
succeeds and all later ones are refused (`attempts_of_absent`).  Neither sequence numbers nor votes matter
here.
-/

namespace Jukebox.Queue.Store

/-- Operations on the queues and the answers to them. -/
abbrev interface : Interface :=
  ⟨Operation, Operation.Reply⟩

/-- Answers an operation. -/
def serve (op : Operation) (s : Store) : op.Reply × Store :=
  ((s.apply op).reply, (s.apply op).store)

/-! ## Reading answers -/

/-- The track that was enqueued. -/
def enqueuedIn : Exchange interface → Option TrackId
  | ⟨.enqueue track _, .ok _⟩ => some track.id
  | _ => none

/-- The track that was restored. -/
def restoredIn : Exchange interface → Option TrackId
  | ⟨.restore popped, true⟩ => some popped.entry.id
  | _ => none

/-- The track that was removed. -/
def removedIn : Exchange interface → Option TrackId
  | ⟨.remove id, .ok _⟩ => some id
  | _ => none

/-- The track that was popped. -/
def poppedIn : Exchange interface → Option TrackId
  | ⟨.pop, some popped⟩ => some popped.entry.id
  | _ => none

/-- What was answered to an attempt to enqueue the track. -/
def attemptIn (id : TrackId) : Exchange interface → Option (Except Error Unit)
  | ⟨.enqueue track _, r⟩ => if track.id = id then some r else none
  | _ => none

variable {s s' : Store} {t t' : List (Exchange interface)} {id : TrackId}

/-- The tracks that were enqueued successfully. -/
def enqueued (t : List (Exchange interface)) : List TrackId :=
  t.filterMap enqueuedIn

/-- The tracks that were restored successfully. -/
def restored (t : List (Exchange interface)) : List TrackId :=
  t.filterMap restoredIn

/-- The tracks that were removed successfully. -/
def removed (t : List (Exchange interface)) : List TrackId :=
  t.filterMap removedIn

/-- The tracks that were popped. -/
def popped (t : List (Exchange interface)) : List TrackId :=
  t.filterMap poppedIn

/-- What was answered to the attempts to enqueue the track. -/
def attempts (id : TrackId) (t : List (Exchange interface)) : List (Except Error Unit) :=
  t.filterMap (attemptIn id)

/-! ## The balance -/

/-- How often the track waits. -/
def presence (s : Store) (id : TrackId) : Nat :=
  (s.entries.map Entry.id).count id

/-- What waits afterwards is what waited before and came in, less what went out. -/
structure Balanced (s : Store) (t : List (Exchange interface)) (s' : Store) : Prop where
  unique : (s'.entries.map Entry.id).Nodup
  count : ∀ id, (enqueued t).count id + (restored t).count id + s.presence id =
    (removed t).count id + (popped t).count id + s'.presence id

theorem Balanced.trans {s₁ : Store} (h : Balanced s t s₁) (h' : Balanced s₁ t' s') :
    Balanced s (t ++ t') s' where
  unique := h'.unique
  count id := by
    have hc := h.count id
    have hc' := h'.count id
    unfold enqueued restored removed popped at *
    simp only [List.filterMap_append, List.count_append]
    omega

theorem presence_of_perm_cons {e : Entry} (h : s'.entries.Perm (e :: s.entries)) :
    s'.presence id = [e.id].count id + s.presence id := by
  have hp := (h.map Entry.id).count_eq id
  rw [List.map_cons, List.count_cons] at hp
  rw [List.count_singleton]
  exact hp.trans (Nat.add_comm _ _)

theorem names_setQueue_perm (s : Store) (kind : Kind) {es es' : List Entry}
    (h : (es.map Entry.id).Perm (es'.map Entry.id)) :
    ((s.setQueue kind es).entries.map Entry.id).Perm
      ((s.setQueue kind es').entries.map Entry.id) := by
  cases kind <;> simp only [entries, setQueue, List.map_append]
  · exact h.append_left _
  · exact h.append_right _

theorem presence_eq_zero : s.presence id = 0 ↔ ∀ e ∈ s.entries, e.id ≠ id := by
  unfold presence
  rw [List.count_eq_zero, List.mem_map]
  exact ⟨fun h e he heq => h ⟨e, he, heq⟩, fun h ⟨e, he, heq⟩ => h e he heq⟩

/-- Where no name occurs twice, a track waits once or not at all. -/
theorem presence_eq (hs : (s.entries.map Entry.id).Nodup) (id : TrackId) :
    s.presence id = if s.contains id then 1 else 0 := by
  unfold contains
  rcases s.locate_cases id with ⟨hl, hne⟩ | ⟨kind, e, hl, he, rfl⟩
  · rw [hl]
    exact presence_eq_zero.2 hne
  · rw [hl]
    exact List.count_eq_one_of_mem hs (List.mem_map_of_mem (mem_entries.2 ⟨kind, he⟩))

/-! ## Operations -/

theorem names_update_perm {kind : Kind} {f : Entry → Entry} (hf : ∀ e, (f e).id = e.id) :
    ((s.update kind id f).entries.map Entry.id).Perm (s.entries.map Entry.id) := by
  have hq : ((Entry.rank ((s.queue kind).map fun e => if e.id == id then f e else e)).map
      Entry.id).Perm ((s.queue kind).map Entry.id) := by
    refine ((Entry.rank_perm _).map _).trans ?_
    rw [List.map_map, List.map_congr_left (g := Entry.id)]
    intro e _
    rw [Function.comp_apply, apply_ite Entry.id, hf, ite_self]
  have hs := names_setQueue_perm s kind hq
  rwa [setQueue_queue] at hs

/-- An exchange that neither puts anything in nor takes anything out. -/
def Neutral (x : Exchange interface) : Prop :=
  enqueuedIn x = none ∧ restoredIn x = none ∧ removedIn x = none ∧ poppedIn x = none

theorem balanced_neutral {x : Exchange interface} (hs : (s.entries.map Entry.id).Nodup)
    (hp : (s'.entries.map Entry.id).Perm (s.entries.map Entry.id)) (hx : Neutral x) :
    Balanced s [x] s' where
  unique := hp.nodup_iff.2 hs
  count id := by
    obtain ⟨he, hr, hm, ho⟩ := hx
    unfold enqueued restored removed popped
    rw [List.filterMap_cons_none he, List.filterMap_cons_none hr, List.filterMap_cons_none hm,
      List.filterMap_cons_none ho]
    exact congrArg (0 + 0 + ·) (hp.count_eq id).symm

theorem balanced_unchanged {x : Exchange interface} (hs : (s.entries.map Entry.id).Nodup)
    (hx : Neutral x) : Balanced s [x] s :=
  balanced_neutral hs (List.Perm.refl _) hx

/-- An entry of a new name came in. -/
theorem balanced_insert {x : Exchange interface} {e : Entry} (hs : (s.entries.map Entry.id).Nodup)
    (he : s'.entries.Perm (e :: s.entries)) (hne : ∀ y ∈ s.entries, y.id ≠ e.id)
    (hin : ∀ id, (enqueued [x]).count id + (restored [x]).count id = [e.id].count id)
    (hout : removed [x] = [] ∧ popped [x] = []) : Balanced s [x] s' where
  unique := by
    rw [(he.map Entry.id).nodup_iff, List.map_cons, List.nodup_cons, List.mem_map]
    exact ⟨fun ⟨y, hy, heq⟩ => hne y hy heq, hs⟩
  count id := by
    rw [hin, hout.1, hout.2, presence_of_perm_cons he]
    exact (Nat.zero_add _).symm

/-- An entry went out. -/
theorem balanced_erase {x : Exchange interface} {e : Entry}
    (hs : (s.entries.map Entry.id).Nodup) (he : s.entries.Perm (e :: s'.entries))
    (hin : enqueued [x] = [] ∧ restored [x] = [])
    (hout : ∀ id, (removed [x]).count id + (popped [x]).count id = [e.id].count id) :
    Balanced s [x] s' where
  unique := (List.nodup_cons.1 ((he.map Entry.id).nodup_iff.1 hs)).2
  count id := by
    rw [hout, hin.1, hin.2, presence_of_perm_cons he]
    exact Nat.zero_add _

/-- Every operation keeps the balance. -/
theorem balanced_serve (hs : (s.entries.map Entry.id).Nodup) (op : Operation) :
    Balanced s [⟨op, (serve op s).1⟩] (serve op s).2 := by
  cases op with
  | enqueue track kind =>
    show Balanced s [⟨.enqueue track kind, (s.enqueue track kind).reply⟩] (s.enqueue track kind).store
    rcases enqueue_cases track kind s with ⟨other, e, -, -, ho⟩ | ⟨hne, ho⟩ <;> rw [ho]
    · exact balanced_unchanged hs ⟨rfl, rfl, rfl, rfl⟩
    · exact balanced_insert hs (entries_insert _ _ _) hne (fun _ => rfl) ⟨rfl, rfl⟩
  | vote name voter up =>
    show Balanced s [⟨.vote name voter up, (s.vote name voter up).reply⟩] (s.vote name voter up).store
    rcases vote_cases name voter up s with ⟨-, ho⟩ | ⟨kind, e, -, -, ⟨-, ho⟩ | ⟨-, ho⟩⟩ <;> rw [ho]
    · exact balanced_unchanged hs ⟨rfl, rfl, rfl, rfl⟩
    · exact balanced_unchanged hs ⟨rfl, rfl, rfl, rfl⟩
    · exact balanced_neutral hs (names_update_perm fun _ => rfl) ⟨rfl, rfl, rfl, rfl⟩
  | remove name =>
    show Balanced s [⟨.remove name, (s.remove name).reply⟩] (s.remove name).store
    rcases remove_cases name s with ⟨-, ho⟩ | ⟨kind, e, he, rfl, ho⟩ <;> rw [ho]
    · exact balanced_unchanged hs ⟨rfl, rfl, rfl, rfl⟩
    · exact balanced_erase hs (entries_erase hs he) ⟨rfl, rfl⟩ fun _ => rfl
  | move name target =>
    show Balanced s [⟨.move name target, (s.move name target).reply⟩] (s.move name target).store
    rcases move_cases name target s with ⟨-, ho⟩ | ⟨kind, e, he, rfl, ⟨-, ho⟩ | ⟨-, ho⟩⟩ <;> rw [ho]
    · exact balanced_unchanged hs ⟨rfl, rfl, rfl, rfl⟩
    · exact balanced_unchanged hs ⟨rfl, rfl, rfl, rfl⟩
    · have hi := entries_insert (s.erase kind e.id).advance target { e with sequence := s.nextSequence }
      have hp := (hi.map Entry.id).trans ((entries_erase hs he).map Entry.id).symm
      exact balanced_neutral hs hp ⟨rfl, rfl, rfl, rfl⟩
  | pop =>
    show Balanced s [⟨.pop, s.pop.reply⟩] s.pop.store
    rcases pop_cases s with ⟨-, ho⟩ | ⟨kind, e, rest, -, hentries, ho⟩ <;> rw [ho]
    · exact balanced_unchanged hs ⟨rfl, rfl, rfl, rfl⟩
    · exact balanced_erase hs (List.Perm.of_eq hentries) ⟨rfl, rfl⟩ fun _ => Nat.zero_add _
  | restore popped =>
    show Balanced s [⟨.restore popped, (s.restore popped).reply⟩] (s.restore popped).store
    rcases restore_cases popped s with ⟨-, ho⟩ | ⟨hne, ho⟩ <;> rw [ho]
    · exact balanced_unchanged hs ⟨rfl, rfl, rfl, rfl⟩
    · exact balanced_insert hs (entries_insert _ _ _) hne (fun _ => Nat.zero_add _) ⟨rfl, rfl⟩
  | setNowPlaying playback => exact balanced_neutral hs (List.Perm.refl _) ⟨rfl, rfl, rfl, rfl⟩

/-- Whatever is asked of the store, in whatever order, the balance is kept. -/
theorem balanced (h : Program.Served serve s t s') (hs : (s.entries.map Entry.id).Nodup) :
    Balanced s t s' := by
  induction h with
  | nil s => exact ⟨hs, fun id => rfl⟩
  | @cons op s s' t _ ih =>
    have hone := balanced_serve hs op
    exact hone.trans (ih hone.unique)

/-! ## Attempts to enqueue one track -/

/-- The track is neither taken out nor brought back. -/
structure Undisturbed (id : TrackId) (t : List (Exchange interface)) : Prop where
  removed : id ∉ removed t
  popped : id ∉ popped t
  restored : id ∉ restored t

theorem Undisturbed.of_cons {x : Exchange interface} (h : Undisturbed id (x :: t)) :
    Undisturbed id [x] ∧ Undisturbed id t := by
  have hsplit : ∀ f : Exchange interface → Option TrackId, id ∉ (x :: t).filterMap f →
      id ∉ [x].filterMap f ∧ id ∉ t.filterMap f := by
    intro f hf
    rw [← List.singleton_append, List.filterMap_append, List.mem_append, not_or] at hf
    exact hf
  obtain ⟨hr, hr'⟩ := hsplit _ h.removed
  obtain ⟨hp, hp'⟩ := hsplit _ h.popped
  obtain ⟨hb, hb'⟩ := hsplit _ h.restored
  exact ⟨⟨hr, hp, hb⟩, ⟨hr', hp', hb'⟩⟩

theorem Undisturbed.presence_eq (h : Undisturbed id t) (hb : Balanced s t s') :
    s'.presence id = (enqueued t).count id + s.presence id := by
  have hc := hb.count id
  rw [List.count_eq_zero.2 h.removed, List.count_eq_zero.2 h.popped,
    List.count_eq_zero.2 h.restored] at hc
  omega

/-- An attempt to enqueue a track is refused exactly if the track waits. -/
theorem attempt_cases (s : Store) (op : Operation) (id : TrackId) :
    attempts id [⟨op, (serve op s).1⟩] = [] ∧ id ∉ enqueued [⟨op, (serve op s).1⟩] ∨
    (s.presence id = 0 ∧ attempts id [⟨op, (serve op s).1⟩] = [.ok ()] ∧
      enqueued [⟨op, (serve op s).1⟩] = [id]) ∨
    s.presence id ≠ 0 ∧ ∃ queue, attempts id [⟨op, (serve op s).1⟩] =
      [.error (.alreadyQueued id queue)] := by
  cases op with
  | enqueue track kind =>
    by_cases hid : track.id = id
    · subst hid
      have hr : ∀ r : Except Error Unit, attempts track.id [⟨.enqueue track kind, r⟩] = [r] :=
        fun r => List.filterMap_cons_some (if_pos rfl)
      refine Or.inr ?_
      show _ ∧ attempts track.id [⟨.enqueue track kind, (s.enqueue track kind).reply⟩] = _ ∧
        enqueued [⟨.enqueue track kind, (s.enqueue track kind).reply⟩] = _ ∨ _ ∧ ∃ queue,
        attempts track.id [⟨.enqueue track kind, (s.enqueue track kind).reply⟩] = _
      rcases enqueue_cases track kind s with ⟨other, e, he, hid, ho⟩ | ⟨hne, ho⟩ <;> rw [ho]
      · refine Or.inr ⟨fun h0 => ?_, other, hr _⟩
        exact presence_eq_zero.1 h0 e (mem_entries.2 ⟨other, he⟩) hid
      · exact Or.inl ⟨presence_eq_zero.2 hne, hr _, rfl⟩
    · refine Or.inl ⟨List.filterMap_cons_none (if_neg hid), ?_⟩
      show id ∉ enqueued [⟨.enqueue track kind, (s.enqueue track kind).reply⟩]
      cases (s.enqueue track kind).reply with
      | ok _ => exact fun h => hid (List.mem_singleton.1 h).symm
      | error e => exact List.not_mem_nil
  | _ => exact Or.inl ⟨rfl, List.not_mem_nil⟩

theorem attempts_cons (x : Exchange interface) (t : List (Exchange interface)) :
    attempts id (x :: t) = attempts id [x] ++ attempts id t := by
  unfold attempts
  rw [← List.filterMap_append, List.singleton_append]

/-- While the track waits, all attempts are refused. -/
theorem attempts_of_present (h : Program.Served serve s t s') (hs : (s.entries.map Entry.id).Nodup)
    (hpresent : s.presence id ≠ 0) (hquiet : Undisturbed id t) :
    ∀ r ∈ attempts id t, ∃ queue, r = .error (.alreadyQueued id queue) := by
  induction h with
  | nil s => exact fun r hr => absurd hr List.not_mem_nil
  | @cons op s s' t _ ih =>
    obtain ⟨hone, hrest⟩ := hquiet.of_cons
    have hb := balanced_serve hs op
    have hstill := hone.presence_eq hb
    have hlater := ih hb.unique (by omega) hrest
    rw [attempts_cons]
    rcases attempt_cases s op id with ⟨ha, -⟩ | ⟨h0, -⟩ | ⟨-, queue, ha⟩
    · rw [ha]
      exact hlater
    · exact absurd h0 hpresent
    · rw [ha]
      exact List.forall_mem_cons.2 ⟨⟨queue, rfl⟩, hlater⟩

/-- If the track does not wait, the first attempt succeeds and all later ones are refused. -/
theorem attempts_of_absent (h : Program.Served serve s t s') (hs : (s.entries.map Entry.id).Nodup)
    (habsent : s.presence id = 0) (hquiet : Undisturbed id t) (hsome : attempts id t ≠ []) :
    ∃ later, attempts id t = .ok () :: later ∧
      ∀ r ∈ later, ∃ queue, r = .error (.alreadyQueued id queue) := by
  induction h with
  | nil s => exact absurd rfl hsome
  | @cons op s s' t hserved ih =>
    obtain ⟨hone, hrest⟩ := hquiet.of_cons
    have hb := balanced_serve hs op
    have hstill := hone.presence_eq hb
    rw [attempts_cons] at hsome ⊢
    rcases attempt_cases s op id with ⟨ha, hnot⟩ | ⟨-, ha, hin⟩ | ⟨hne, -⟩
    · rw [List.count_eq_zero.2 hnot, habsent] at hstill
      rw [ha] at hsome ⊢
      exact ih hb.unique hstill hrest hsome
    · rw [hin, habsent, List.count_singleton_self] at hstill
      rw [ha]
      exact ⟨_, rfl, attempts_of_present hserved hb.unique (by omega) hrest⟩
    · exact absurd habsent hne

end Jukebox.Queue.Store
