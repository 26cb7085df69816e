import Jukebox.Proofs.Party.Views
import Jukebox.Proofs.Queue.Drain

/-!
# What guests see is the order of play

A guest who asks for the queues is shown two lists.  The first, and behind it the second, is the order in
which the tracks are popped, if nothing else happens (`shown_in_order_of_play`).
-/

namespace Jukebox.Party

open Queue (Entry Popped)
open Queue.Store (Operation Report)

variable {σ : Type}

/-- **What is shown is the order of play.**  At a party whose queues are what any operations have made of
empty ones, popping again and again yields the queue for administrators and then the other one, each entry
with its queue, and then nothing.  Every guest who asks is shown these tracks in this order, in each list
with votes that do not increase.  And nothing that waits outranks what is popped. -/
theorem shown_in_order_of_play (backend : Backend σ) (party : Party σ) (past : List Operation) :
    let s := (Queue.Store.empty.performAll past).2
    let p : Party σ := { party with store := s }
    let line : List Popped := s.admin.map (⟨·, .admin⟩) ++ s.normal.map (⟨·, .normal⟩)
    (∀ n, (s.performAll (List.replicate n .pop)).1 =
      ((line.take n).map some ++ List.replicate (n - line.length) none).map Report.ofPop) ∧
    (∀ viewer session, p.sessions.get viewer = .ok session →
      ∃ status, p.request backend (.queues viewer) = (.ok status, p) ∧
        List.Forall₂ (Item.Shows viewer) status.adminQueue s.admin ∧
        List.Forall₂ (Item.Shows viewer) status.normalQueue s.normal ∧
        status.adminQueue.Pairwise (fun a b => b.votes ≤ a.votes) ∧
        status.normalQueue.Pairwise fun a b => b.votes ≤ a.votes) ∧
    ∀ popped, s.pop.reply = some popped → ∀ x ∈ line, ¬ x.Outranks popped := by
  intro s p line
  have hordered : s.Ordered := Queue.Store.ordered_performAll past
  have hvotes : ∀ (viewer : SessionId) kind,
      ((s.queue kind).map (Item.ofEntry viewer)).Pairwise fun a b => b.votes ≤ a.votes := by
    intro viewer kind
    rw [List.pairwise_map]
    exact hordered.scores kind
  refine ⟨fun n => (Queue.Store.performAll_pops n s).1, fun viewer session hsession => ?_,
    fun popped hpop => hordered.pop hpop⟩
  exact ⟨.ofStore viewer s, request_queues hsession, forall₂_shows _ _, forall₂_shows _ _,
    hvotes viewer .admin, hvotes viewer .normal⟩

/-- A track that was added last and is voted for comes behind the one of an administrator. -/
theorem shown_in_order_of_play_voted :
    let a : Track := ⟨⟨"a"⟩, "A", "", "", 1000, ""⟩
    let b : Track := ⟨⟨"b"⟩, "B", "", "", 1000, ""⟩
    let c : Track := ⟨⟨"c"⟩, "C", "", "", 1000, ""⟩
    let guest : SessionId := ⟨"s"⟩
    let past : List Operation :=
      [.enqueue a .normal, .enqueue b .normal, .enqueue c .admin, .vote ⟨"b"⟩ guest true]
    let s := (Queue.Store.empty.performAll past).2
    let p : Party Player := { Party.new ⟨none, none, 10⟩ ⟨2000, 5, 10000⟩ (fun _ => guest)
      (Player.new []) default with
      store := s
      sessions := Sessions.empty.insert ⟨guest, none, false, default⟩ }
    (s.performAll (List.replicate 4 .pop)).1 = [some ⟨.new c 2, .admin⟩,
      some ⟨⟨b, Queue.Voters.empty.insert guest, 1⟩, .normal⟩, some ⟨.new a 0, .normal⟩, none].map
        Report.ofPop ∧
    (∃ status, p.request Player.backend (.queues guest) = (.ok status, p) ∧
      List.Forall₂ (Item.Shows guest) status.adminQueue s.admin ∧
      List.Forall₂ (Item.Shows guest) status.normalQueue s.normal) ∧
    ∀ x ∈ s.line, ¬ x.Outranks ⟨.new c 2, .admin⟩ := by
  intro a b c guest past s p
  have hline : s.line = [⟨.new c 2, .admin⟩, ⟨⟨b, Queue.Voters.empty.insert guest, 1⟩, .normal⟩,
      ⟨.new a 0, .normal⟩] := by
    dsimp only [s, past]
    cbv
  have hpop : s.pop.reply = some ⟨.new c 2, .admin⟩ := by
    dsimp only [s, past]
    cbv
  obtain ⟨hpops, hshown, hbest⟩ := shown_in_order_of_play Player.backend p past
  refine ⟨(hpops 4).trans ?_, ?_, hbest _ hpop⟩
  · show ((s.line.take 4).map some ++ List.replicate (4 - s.line.length) none).map Report.ofPop = _
    rw [hline]
    rfl
  · obtain ⟨status, hstatus, hadmin, hnormal, -⟩ := hshown guest ⟨guest, none, false, default⟩ rfl
    exact ⟨status, hstatus, hadmin, hnormal⟩

end Jukebox.Party
