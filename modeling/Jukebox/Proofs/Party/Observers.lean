import Jukebox.Proofs.Party.Deeds
import Jukebox.Proofs.Queue.Replica

/-!
# What observers are told of the queues

Of every operation that changes a queue, or who votes for an entry, observers are told once, and of the
others not at all.  Whoever knows which tracks wait in which queue, and follows what is told from then on,
knows it after every operation (`queues_mirrored`).
-/

namespace Jukebox

/-- What an observer of the queues knows after something happened. -/
def Queue.Replica.hear (r : Queue.Replica) : Occurrence → Queue.Replica
  | .queueChanged change => r.follow change
  | _ => r

namespace Party

open Queue (Replica)
open Queue.Store (Operation Differs)

variable {σ : Type}

theorem store_deed_queue (backend : Backend σ) (p : Party σ) (op : Operation) :
    ((Deed.queue op).after backend p).store = (p.store.apply op).store := by
  obtain ⟨hyields, hserved⟩ := Program.ends_run (commit op) (serve backend) p
  obtain ⟨change, hcommitted⟩ := yields_commit hyields
  rw [hcommitted] at hserved
  obtain ⟨-, -, bus, hp⟩ := served_committed hserved
  exact congrArg Party.store hp

theorem told_deed_queue (backend : Backend σ) (p : Party σ) (op : Operation) :
    told ((Deed.queue op).exchanges backend p) =
      (p.store.apply op).change.toList.map .queueChanged := by
  obtain ⟨hyields, hserved⟩ := Program.ends_run (commit op) (serve backend) p
  obtain ⟨change, hcommitted⟩ := yields_commit hyields
  rw [hcommitted] at hserved
  obtain ⟨-, hchange, -⟩ := served_committed hserved
  have hexchanges : (Deed.queue op).exchanges backend p = committed op _ change := hcommitted
  rw [hexchanges, told_committed, hchange]

theorem store_afterAll_queue (backend : Backend σ) (p : Party σ) (ops : List Operation) :
    (afterAll backend p (ops.map .queue)).store = (p.store.performAll ops).2 := by
  induction ops generalizing p with
  | nil => rfl
  | cons op ops ih => exact (ih _).trans (by rw [store_deed_queue]; rfl)

/-- An observer who follows what is told keeps up. -/
theorem hear_exchangesAll (backend : Backend σ) (p : Party σ)
    (hp : (p.store.entries.map Queue.Entry.id).Nodup) (ops : List Operation) :
    (told (exchangesAll backend p (ops.map .queue))).foldl Replica.hear (.ofStore p.store) =
      .ofStore (afterAll backend p (ops.map .queue)).store := by
  induction ops generalizing p with
  | nil => rfl
  | cons op ops ih =>
    have hstep : (told ((Deed.queue op).exchanges backend p)).foldl Replica.hear (.ofStore p.store) =
        .ofStore ((Deed.queue op).after backend p).store := by
      rw [told_deed_queue, store_deed_queue, List.foldl_map]
      exact Queue.Store.follow_effect hp (Queue.Store.effect_apply hp op)
    have hunique : ((((Deed.queue op).after backend p).store).entries.map Queue.Entry.id).Nodup := by
      rw [store_deed_queue]
      exact Queue.Store.unique_apply hp op
    show (told ((Deed.queue op).exchanges backend p ++ _)).foldl Replica.hear _ = _
    rw [told_append, List.foldl_append, hstep]
    exact ih _ hunique

/-- Either observers are told of one change, and there is a difference, or of none, and there is none. -/
theorem told_or_same (backend : Backend σ) (p : Party σ)
    (hp : (p.store.entries.map Queue.Entry.id).Nodup) (op : Operation) :
    ((∃ change, told ((Deed.queue op).exchanges backend p) = [.queueChanged change]) ∧
        Differs p.store ((Deed.queue op).after backend p).store) ∨
      (told ((Deed.queue op).exchanges backend p) = [] ∧
        ∀ kind, ((Deed.queue op).after backend p).store.queue kind = p.store.queue kind) := by
  rw [told_deed_queue, store_deed_queue]
  have heffect := Queue.Store.effect_apply hp op
  have hunique := Queue.Store.unique_apply hp op
  cases hchange : (p.store.apply op).change with
  | none =>
    rw [hchange] at heffect
    cases heffect with
    | silent hsame => exact Or.inr ⟨rfl, hsame⟩
  | some change =>
    rw [hchange] at heffect
    exact Or.inl ⟨⟨change, rfl⟩, Queue.Store.differs_of_effect hp hunique heffect⟩

/-- **The queues are mirrored.**  At a party whose queues are what any operations have made of empty ones,
let operations be performed one after the other.  An observer who knew at the beginning which tracks wait in
which queue, and followed what was told, knows it at the end.  Of the next operation, whatever it is,
observers are told exactly once if a track comes into or goes out of a queue, or other sessions vote for
one, and not at all if both queues stay as they are. -/
theorem queues_mirrored (backend : Backend σ) (party : Party σ) (past ops : List Operation) :
    let p : Party σ := { party with store := (Queue.Store.empty.performAll past).2 }
    let p' := afterAll backend p (ops.map .queue)
    (told (exchangesAll backend p (ops.map .queue))).foldl Replica.hear (.ofStore p.store) =
        .ofStore p'.store ∧
      ∀ op : Operation,
        let news := told ((Deed.queue op).exchanges backend p')
        let after := ((Deed.queue op).after backend p').store
        ((∃ change, news = [.queueChanged change]) ∧ Differs p'.store after) ∨
          (news = [] ∧ ∀ kind, after.queue kind = p'.store.queue kind) := by
  intro p p'
  have hp : (p.store.entries.map Queue.Entry.id).Nodup := Queue.Store.unique_performAll_empty past
  have hp' : (p'.store.entries.map Queue.Entry.id).Nodup := by
    rw [store_afterAll_queue]
    exact Queue.Store.unique_performAll hp ops
  exact ⟨hear_exchangesAll backend p hp ops, told_or_same backend p' hp'⟩

end Party
end Jukebox
