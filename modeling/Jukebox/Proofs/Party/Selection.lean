import Jukebox.Proofs.Gateway.Play
import Jukebox.Proofs.Party.Steps
import Jukebox.Proofs.Queue.Contents

/-!
# Choosing the next track

`nextTrack` pops the best entry and has it played; only a failure that may pass brings the entry back.
`Selecting` says this of the exchanges, whoever answers them (`yields_nextTrack`); `Selected` says what
becomes of a party that answers them (`ends_nextTrack`).
-/

namespace Jukebox.Party

open Queue (Popped Change)
open Queue.Store (Operation)

/-- The exchanges of popping the best entry. -/
def popping (popped : Option Popped) (change : Option Change) : List (Exchange interface) :=
  committed .pop popped change

/-- The exchanges of choosing the next track. -/
inductive Selecting (preferred : Option String) :
    List (Exchange interface) → Except Error (Option Track) → Prop
  /-- Both queues are empty. -/
  | nothing {change} : Selecting preferred (popping none change) (.ok none)
  /-- The track is handed to the playback service. -/
  | handed {popped : Popped} {change u} :
      (Gateway.play preferred popped.entry.track).run.Yields u (.ok ()) →
      Selecting preferred (popping (some popped) change ++ (u.map atGateway ++
        [⟨.updateMemory (·.requesting popped.entry.track), ()⟩,
          ⟨.publish (.trackStarted popped.entry.track.id popped.entry.track.title
            popped.entry.track.artist), ()⟩])) (.ok (some popped.entry.track))
  /-- The track was not started, and its entry goes back. -/
  | putBack {popped : Popped} {change u e back change'} :
      (Gateway.play preferred popped.entry.track).run.Yields u (.error e) → e.isTransient = true →
      Selecting preferred (popping (some popped) change ++ (u.map atGateway ++
        committed (.restore popped) back change')) (.error e)
  /-- The track was not started, and its entry is gone. -/
  | givenUp {popped : Popped} {change u e} :
      (Gateway.play preferred popped.entry.track).run.Yields u (.error e) → e.isTransient = false →
      Selecting preferred (popping (some popped) change ++ u.map atGateway) (.error e)

theorem yields_nextTrack {preferred : Option String} {t : List (Exchange interface)}
    {r : Except Error (Option Track)} (h : (nextTrack preferred).run.Yields t r) :
    Selecting preferred t r := by
  obtain ⟨t₁, t₂, popped, rfl, hpop, hrest⟩ := Program.yields_bind.1 h
  obtain ⟨change, rfl⟩ := yields_commit hpop
  cases (popped : Option Popped) with
  | none =>
    obtain ⟨rfl, rfl⟩ := Program.yields_pure.1 hrest
    rw [List.append_nil]
    exact .nothing
  | some popped =>
    obtain ⟨t₃, t₄, result, rfl, hplay, hend⟩ := Program.yields_bind.1 hrest
    obtain ⟨u, hu, rfl⟩ := yields_gateway hplay
    cases result with
    | ok _ =>
      obtain ⟨t₅, t₆, _, rfl, hmemory, hpublish⟩ := Program.yields_bind.1 hend
      obtain ⟨t₇, t₈, _, rfl, hpublish, hdone⟩ := Program.yields_bind.1 hpublish
      obtain rfl := Program.yields_request.1 hmemory
      obtain rfl := Program.yields_request.1 hpublish
      obtain ⟨rfl, rfl⟩ := Program.yields_pure.1 hdone
      exact .handed hu
    | error e =>
      dsimp only at hend
      split at hend
      · next he =>
        obtain ⟨t₅, t₆, back, rfl, hrestore, hdone⟩ := Program.yields_bind.1 hend
        obtain ⟨change', rfl⟩ := yields_commit hrestore
        obtain ⟨rfl, rfl⟩ := Program.yields_pure.1 hdone
        rw [List.append_nil]
        exact .putBack hu he
      · next he =>
        obtain ⟨rfl, rfl⟩ := Program.yields_pure.1 hend
        rw [List.append_nil]
        exact .givenUp hu (Bool.eq_false_iff.2 he)

/-! ## What becomes of the party -/

variable {σ : Type}

/-- How choosing the next track leaves a party `p`, which exchanges `t`. -/
inductive Selected (backend : Backend σ) (preferred : Option String) (p : Party σ)
    (t : List (Exchange interface)) (p' : Party σ) : Except Error (Option Track) → Prop
  | nothing (hpop : p.store.pop = ⟨none, none, p.store⟩) (htold : told t = [])
      (hstarted : started t = []) (hstore : p'.store = p.store) (hmemory : p'.memory = p.memory) :
      Selected backend preferred p t p' (.ok none)
  | handed {popped : Popped} {s : Queue.Store}
      (hpop : p.store.pop = ⟨some popped, some ⟨.popped, popped.entry.id, popped.queue⟩, s⟩)
      (htold : told t = [.queueChanged ⟨.popped, popped.entry.id, popped.queue⟩,
        .trackStarted popped.entry.id popped.entry.track.title popped.entry.track.artist])
      (hstarted : started t = [popped.entry.id]) (hstore : p'.store = s)
      (hmemory : p'.memory = p.memory.requesting popped.entry.track) :
      Selected backend preferred p t p' (.ok (some popped.entry.track))
  | putBack {popped : Popped} {s : Queue.Store} {e : Error}
      (hpop : p.store.pop = ⟨some popped, some ⟨.popped, popped.entry.id, popped.queue⟩, s⟩)
      (htold : told t = .queueChanged ⟨.popped, popped.entry.id, popped.queue⟩ ::
        (s.restore popped).change.toList.map .queueChanged)
      (hstarted : started t = []) (hstore : p'.store = (s.restore popped).store)
      (hmemory : p'.memory = p.memory) : Selected backend preferred p t p' (.error e)
  | givenUp {popped : Popped} {s : Queue.Store} {e : Error} {u service}
      (hpop : p.store.pop = ⟨some popped, some ⟨.popped, popped.entry.id, popped.queue⟩, s⟩)
      (hplay : (Gateway.play preferred popped.entry.track).run.Ends
        (Gateway.serve backend p.clock) p.service u (.error e) service)
      (he : e.isTransient = false)
      (htold : told t = [.queueChanged ⟨.popped, popped.entry.id, popped.queue⟩])
      (hstarted : started t = []) (hstore : p'.store = s) (hmemory : p'.memory = p.memory) :
      Selected backend preferred p t p' (.error e)

theorem started_popping (popped : Option Popped) (change : Option Change) :
    started (popping popped change) = [] :=
  started_committed _ _ _

section
variable {backend : Backend σ} {preferred : Option String} {p p' : Party σ} {change : Option Change}
  {t : List (Exchange interface)}

theorem served_popping_none (h : Program.Served (serve backend) p (popping none change) p') :
    p.store.pop = ⟨none, none, p.store⟩ ∧ change = none ∧ ∃ bus, p' = { p with bus := bus } := by
  obtain ⟨hr, rfl, bus, rfl⟩ := served_committed h
  have hpop := Queue.Store.pop_eq_none hr.symm
  refine ⟨hpop, congrArg (·.change) hpop, bus, ?_⟩
  exact congrArg (fun o => { p with store := o.store, bus := bus }) hpop

theorem served_popping_some {popped : Popped}
    (h : Program.Served (serve backend) p (popping (some popped) change) p') :
    ∃ s, p.store.pop = ⟨some popped, some ⟨.popped, popped.entry.id, popped.queue⟩, s⟩ ∧
      change = some ⟨.popped, popped.entry.id, popped.queue⟩ ∧
      ∃ bus, p' = { p with store := s, bus := bus } := by
  obtain ⟨hr, rfl, bus, rfl⟩ := served_committed h
  have hpop := Queue.Store.pop_eq_some hr.symm
  exact ⟨p.store.pop.store, hpop, congrArg (·.change) hpop, bus, rfl⟩

theorem ends_nextTrack {r : Except Error (Option Track)}
    (h : (nextTrack preferred).run.Ends (serve backend) p t r p') :
    Selected backend preferred p t p' r := by
  obtain ⟨hy, hs⟩ := h
  cases yields_nextTrack hy with
  | nothing =>
    obtain ⟨hpop, rfl, bus, rfl⟩ := served_popping_none hs
    exact .nothing hpop rfl rfl rfl rfl
  | handed hplay =>
    obtain ⟨p₁, hs₁, hs₂⟩ := Program.served_append.1 hs
    obtain ⟨s, hpop, rfl, bus, rfl⟩ := served_popping_some hs₁
    obtain ⟨p₂, hs₃, hend⟩ := Program.served_append.1 hs₂
    obtain ⟨service, hservice, rfl⟩ := served_atGateway hs₃
    obtain ⟨-, hend⟩ := Program.served_cons.1 hend
    obtain ⟨-, hend⟩ := Program.served_cons.1 hend
    obtain rfl := Program.served_nil.1 hend
    refine .handed hpop ?_ ?_ rfl rfl
    · rw [told_append, told_append, told_atGateway]
      rfl
    · rw [started_append, started_append, started_atGateway, started_popping,
        Gateway.started_play hplay]
      rfl
  | putBack hplay he =>
    obtain ⟨p₁, hs₁, hs₂⟩ := Program.served_append.1 hs
    obtain ⟨s, hpop, rfl, bus, rfl⟩ := served_popping_some hs₁
    obtain ⟨p₂, hs₃, hend⟩ := Program.served_append.1 hs₂
    obtain ⟨service, hservice, rfl⟩ := served_atGateway hs₃
    obtain ⟨-, rfl, bus', rfl⟩ := served_committed hend
    refine .putBack hpop ?_ ?_ rfl rfl
    · rw [told_append, told_append, told_atGateway, told_committed]
      rfl
    · rw [started_append, started_append, started_atGateway, started_popping,
        started_committed, Gateway.started_play hplay]
      rfl
  | givenUp hplay he =>
    obtain ⟨p₁, hs₁, hs₂⟩ := Program.served_append.1 hs
    obtain ⟨s, hpop, rfl, bus, rfl⟩ := served_popping_some hs₁
    obtain ⟨service, hservice, rfl⟩ := served_atGateway hs₂
    refine .givenUp hpop ⟨hplay, hservice⟩ he ?_ ?_ rfl rfl
    · rw [told_append, told_atGateway]
      rfl
    · rw [started_append, started_atGateway, started_popping, Gateway.started_play hplay]
      rfl

end
end Jukebox.Party
