import Jukebox.Party
import Jukebox.Player
import Jukebox.Proofs.Queue.Ballots

/-!
# What guests see of the votes

A guest who asks for the queues sees of every entry how many sessions vote for it and whether the own
session does.  Both are what the votes accepted so far say (`votes_counted`), and nothing else in the answer
depends on who asks.
-/

namespace Jukebox.Party

open Queue (Entry Popped Voting Ledger)
open Queue.Store (Operation)

variable {σ : Type} {backend : Backend σ} {p : Party σ} {viewer : SessionId} {session : Session}

/-- The item is what the viewer is to see of an entry. -/
structure Item.Shows (viewer : SessionId) (item : Item) (e : Entry) : Prop where
  track : item.track = e.track
  votes : item.votes = e.score
  own : item.currentVote = true ↔ viewer ∈ e.votes

theorem Item.shows_ofEntry (viewer : SessionId) (e : Entry) :
    (Item.ofEntry viewer e).Shows viewer e :=
  ⟨rfl, rfl, decide_eq_true_iff⟩

/-- The item without the viewer's own vote. -/
def Item.impartial (item : Item) : Item :=
  { item with currentVote := false }

/-- What is shown to a viewer, without the viewer's own votes. -/
def Status.impartial (status : Status) : Status :=
  { status with
    normalQueue := status.normalQueue.map Item.impartial
    adminQueue := status.adminQueue.map Item.impartial }

theorem Status.impartial_ofStore (viewer other : SessionId) (s : Queue.Store) :
    (Status.ofStore viewer s).impartial = (Status.ofStore other s).impartial := by
  unfold Status.impartial Status.ofStore
  simp only [List.map_map]
  rfl

theorem forall₂_shows (viewer : SessionId) (es : List Entry) :
    List.Forall₂ (Item.Shows viewer) (es.map (Item.ofEntry viewer)) es := by
  rw [List.forall₂_map_left_iff]
  exact List.forall₂_same.2 fun e _ => Item.shows_ofEntry viewer e

/-- A guest whose session is known is shown the queues as they are. -/
theorem request_queues (h : p.sessions.get viewer = .ok session) :
    p.request backend (.queues viewer) = (.ok (.ofStore viewer p.store), p) := by
  have hfound : (findSession viewer).run.run (serve backend) p = (.ok session, p) :=
    congrArg (·, p) h
  show (queues viewer).run.run (serve backend) p = _
  unfold queues
  rw [ExceptT.run_bind, Program.run_bind, hfound]
  rfl

/-- **Votes are counted.**  Of every entry that waits, before the sequence numbers run out, the voters are
those whose last accepted vote on it was up, so its score is their number; an entry is known by the number
it was created with, which is another one for each entry.  A guest who asks for the queues is shown these
scores and whether the own session is among the voters, and all guests are shown the same but for that. -/
theorem votes_counted (backend : Backend σ) {v : Voting} (hv : v.Reachable)
    (hg : v.ledger.given < UInt64.size) (hstore : p.store = v.ledger.store) :
    (∀ e ∈ p.store.admin ++ p.store.normal,
      (∀ voter, voter ∈ e.votes ↔ v.register.lastVote e voter = some true) ∧
      e.score = (v.register.supporters e).length) ∧
    ((p.store.admin ++ p.store.normal ++ v.ledger.away.map Popped.entry).map
      fun e => v.register.origin e.sequence).Nodup ∧
    ∀ viewer session, p.sessions.get viewer = .ok session →
      ∃ status, (p.request backend (.queues viewer)).1 = .ok status ∧
        List.Forall₂ (Item.Shows viewer) status.normalQueue p.store.normal ∧
        List.Forall₂ (Item.Shows viewer) status.adminQueue p.store.admin ∧
        ∀ other session', p.sessions.get other = .ok session' →
          ∃ status', (p.request backend (.queues other)).1 = .ok status' ∧
            status'.impartial = status.impartial := by
  have htallied := hv.agrees hg
  unfold Queue.Store.Agrees at htallied
  rw [← hstore] at htallied
  refine ⟨fun e he => ?_, htallied.distinct, fun viewer session hsession => ?_⟩
  · have hmem : e ∈ p.store.entries ++ v.ledger.away.map Popped.entry := List.mem_append_left _ he
    exact ⟨htallied.counted e hmem, htallied.score_eq hmem⟩
  · refine ⟨.ofStore viewer p.store, ?_, forall₂_shows _ _, forall₂_shows _ _, ?_⟩
    · rw [request_queues hsession]
    · intro other session' hsession'
      refine ⟨.ofStore other p.store, ?_, Status.impartial_ofStore _ _ _⟩
      rw [request_queues hsession']

/-- A track is voted for, removed, added and voted for again, popped, restored and moved. -/
theorem votes_counted_restored :
    let a : Track := ⟨⟨"a"⟩, "A", "", "", 1000, ""⟩
    let s : SessionId := ⟨"s"⟩
    let t : SessionId := ⟨"t"⟩
    let v := [Operation.enqueue a .normal, .vote a.id s true, .remove a.id, .enqueue a .normal,
      .vote a.id t true, .vote a.id s true, .vote a.id s false, .pop, .vote a.id s true,
      .restore ⟨⟨a, Queue.Voters.empty.insert t, 1⟩, .normal⟩, .move a.id .admin].foldl
        Voting.perform .start
    let p : Party Player := { Party.new ⟨none, none, 10⟩ ⟨2000, 5, 10000⟩ (fun _ => s)
      (Player.new []) default with
      store := v.ledger.store
      sessions := Sessions.empty.insert ⟨t, none, false, default⟩ }
    v.Reachable ∧ v.ledger.given < UInt64.size ∧ v.register.ballots.length = 4 ∧
      (∀ e ∈ p.store.admin ++ p.store.normal,
        v.register.origin e.sequence = 1 ∧ v.register.supporters e = [t] ∧ e.score = 1) ∧
      ∃ status, (p.request Player.backend (.queues t)).1 = .ok status ∧
        List.Forall₂ (Item.Shows t) status.adminQueue p.store.admin := by
  intro a s t v p
  have hv : v.Reachable := by
    refine .perform _ (.perform _ (.perform _ (.perform _ (.perform _ (.perform _ (.perform _
      (.perform _ (.perform _ (.perform _ (.perform _ .start ?_) ?_) ?_) ?_) ?_) ?_) ?_) ?_) ?_) ?_) ?_
    all_goals try trivial
    show (⟨⟨a, Queue.Voters.empty.insert t, 1⟩, .normal⟩ : Popped) ∈ _
    decide +kernel
  have hg : v.ledger.given < UInt64.size := by decide +kernel
  have hstore : p.store = v.ledger.store := by dsimp only [p]
  obtain ⟨hvotes, -, hshown⟩ := votes_counted Player.backend hv hg hstore
  obtain ⟨status, hstatus, -, hadmin, -⟩ := hshown t ⟨t, none, false, default⟩ rfl
  have horigin : ∀ e ∈ p.store.admin ++ p.store.normal,
      v.register.origin e.sequence = 1 ∧ v.register.supporters e = [t] := by decide +kernel
  refine ⟨hv, hg, by decide +kernel, fun e he => ?_, status, hstatus, hadmin⟩
  obtain ⟨hcreated, hsupporters⟩ := horigin e he
  refine ⟨hcreated, hsupporters, ?_⟩
  rw [(hvotes e he).2, hsupporters]
  rfl

end Jukebox.Party
