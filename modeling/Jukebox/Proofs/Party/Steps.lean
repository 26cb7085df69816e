import Jukebox.Party
import Jukebox.Proofs.Gateway.Stage

/-!
# What the steps at a party come to

Of the exchanges at a party two things matter to guests: what observers are `told`, and which tracks
are `started`.  A gateway operation tells nothing and changes only the service (`served_atGateway`); an
operation on the queues changes only the store and tells of its change, if it made one
(`served_committed`).
-/

namespace Jukebox.Party

variable {σ α : Type} {backend : Backend σ} {p p' : Party σ} {t : List (Exchange interface)}

/-! ## What matters of an exchange -/

/-- What an exchange told observers. -/
def toldIn : Exchange interface → Option Occurrence
  | ⟨.publish occurrence, _⟩ => some occurrence
  | _ => none

/-- The track that an exchange has started. -/
def startedIn : Exchange interface → Option TrackId
  | ⟨.gateway a, x⟩ => Gateway.startedIn ⟨a, x⟩
  | _ => none

/-- What observers were told, in order. -/
def told (t : List (Exchange interface)) : List Occurrence :=
  t.filterMap toldIn

/-- The tracks that were started, in order. -/
def started (t : List (Exchange interface)) : List TrackId :=
  t.filterMap startedIn

@[simp]
theorem told_nil : told [] = [] := rfl

@[simp]
theorem told_append (t u : List (Exchange interface)) : told (t ++ u) = told t ++ told u :=
  List.filterMap_append

@[simp]
theorem started_append (t u : List (Exchange interface)) :
    started (t ++ u) = started t ++ started u :=
  List.filterMap_append

/-! ## Gateway operations -/

/-- An exchange with the playback service, made at a party. -/
def atGateway (x : Exchange Gateway.interface) : Exchange interface :=
  ⟨.gateway x.request, x.answer⟩

theorem yields_gateway {task : Gateway.Task α} {r : Except Error α}
    (h : (gateway task).run.Yields t r) : ∃ u, task.run.Yields u r ∧ t = u.map atGateway := by
  have hq : ∀ (q : Program Gateway.interface (Except Error α)) (t : List (Exchange interface)),
      (q.interpret (J := interface) fun a => step (.gateway a)).Yields t r →
        ∃ u, q.Yields u r ∧ t = u.map atGateway := by
    intro q
    induction q with
    | done a =>
      intro t h
      cases h
      exact ⟨[], .done r, rfl⟩
    | ask a next ih =>
      intro t h
      cases h with
      | ask h =>
        obtain ⟨u, hu, rfl⟩ := ih _ _ h
        exact ⟨_ :: u, .ask hu, rfl⟩
  exact hq task.run t h

theorem gateway_yields {task : Gateway.Task α} {u : List (Exchange Gateway.interface)}
    {r : Except Error α} (h : task.run.Yields u r) : (gateway task).run.Yields (u.map atGateway) r := by
  change (task.run.interpret (J := interface) fun a => step (.gateway a)).Yields _ r
  generalize task.run = q at h
  induction h with
  | done a => exact .done a
  | ask _ ih => exact .ask ih

/-- What a stage succeeds with was answered by the playback service. -/
theorem answered_stage {c : Call} {a : c.Result} (h : (gateway (Gateway.stage c)).run.Yields t (.ok a)) :
    ⟨.gateway (.call c), .ok a⟩ ∈ t := by
  obtain ⟨u, hu, rfl⟩ := yields_gateway h
  exact List.mem_map_of_mem (f := atGateway) (Gateway.yields_stage hu).answered_ok

/-- A gateway operation runs at a party as it runs with the service alone. -/
theorem run_gateway (task : Gateway.Task α) (p : Party σ) :
    (gateway task).run.run (serve backend) p =
      ((task.run.run (Gateway.serve backend p.clock) p.service).1,
        { p with service := (task.run.run (Gateway.serve backend p.clock) p.service).2 }) := by
  have hq : ∀ (q : Program Gateway.interface (Except Error α)) (p : Party σ),
      (q.interpret (J := interface) fun a => step (.gateway a)).run (serve backend) p =
        ((q.run (Gateway.serve backend p.clock) p.service).1,
          { p with service := (q.run (Gateway.serve backend p.clock) p.service).2 }) := by
    intro q
    induction q with
    | done a => exact fun p => rfl
    | ask a next ih => exact fun p => ih _ _
  exact hq task.run p

@[simp]
theorem told_atGateway (u : List (Exchange Gateway.interface)) : told (u.map atGateway) = [] := by
  unfold told
  rw [List.filterMap_map, List.filterMap_eq_nil_iff]
  exact fun _ _ => rfl

@[simp]
theorem started_atGateway (u : List (Exchange Gateway.interface)) :
    started (u.map atGateway) = u.filterMap Gateway.startedIn := by
  unfold started
  rw [List.filterMap_map]
  rfl

theorem request_atGateway {u : List (Exchange Gateway.interface)} {x : Exchange interface}
    (h : x ∈ u.map atGateway) : ∃ a, x.request = .gateway a := by
  obtain ⟨y, -, rfl⟩ := List.mem_map.1 h
  exact ⟨y.request, rfl⟩

theorem served_atGateway {u : List (Exchange Gateway.interface)}
    (h : Program.Served (serve backend) p (u.map atGateway) p') :
    ∃ s, Program.Served (Gateway.serve backend p.clock) p.service u s ∧
      p' = { p with service := s } := by
  induction u generalizing p with
  | nil =>
    obtain rfl := Program.served_nil.1 h
    exact ⟨p'.service, .nil _, rfl⟩
  | cons x u ih =>
    obtain ⟨a, x⟩ := x
    obtain ⟨hx, h⟩ := Program.served_cons.1 h
    obtain ⟨s, hs, rfl⟩ := ih h
    exact ⟨s, Program.served_cons.2 ⟨hx, hs⟩, rfl⟩

/-! ## Operations on the queues -/

/-- Observers are told of a change, if there is one. -/
def announced : Option Queue.Change → List (Exchange interface)
  | some change => [⟨.publish (.queueChanged change), ()⟩]
  | none => []

/-- An operation on the queues and the news of its change. -/
def committed (op : Queue.Store.Operation) (reply : op.Reply) (change : Option Queue.Change) :
    List (Exchange interface) :=
  ⟨.store op, (reply, change)⟩ :: announced change

theorem yields_commit {op : Queue.Store.Operation} {r : op.Reply} (h : (commit op).Yields t r) :
    ∃ change, t = committed op r change := by
  obtain ⟨t₁, t₂, ⟨reply, change⟩, rfl, h₁, h₂⟩ := Program.yields_bind.1 h
  obtain rfl := Program.yields_request.1 h₁
  refine ⟨change, ?_⟩
  cases change with
  | none =>
    obtain ⟨rfl, rfl⟩ := Program.yields_pure.1 h₂
    rfl
  | some change =>
    obtain ⟨t₃, t₄, _, rfl, h₃, h₄⟩ := Program.yields_bind.1 h₂
    obtain rfl := Program.yields_request.1 h₃
    obtain ⟨rfl, rfl⟩ := Program.yields_pure.1 h₄
    rfl

@[simp]
theorem told_committed (op : Queue.Store.Operation) (r : op.Reply) (change : Option Queue.Change) :
    told (committed op r change) = change.toList.map .queueChanged := by
  cases change <;> rfl

@[simp]
theorem started_committed (op : Queue.Store.Operation) (r : op.Reply)
    (change : Option Queue.Change) : started (committed op r change) = [] := by
  cases change <;> rfl

theorem request_committed {op : Queue.Store.Operation} {r : op.Reply}
    {change : Option Queue.Change} {x : Exchange interface} (h : x ∈ committed op r change) :
    x.request = .store op ∨ ∃ occurrence, x.request = .publish occurrence := by
  rcases List.mem_cons.1 h with rfl | h
  · exact Or.inl rfl
  · cases change with
    | none => exact absurd h List.not_mem_nil
    | some change =>
      obtain rfl := List.mem_singleton.1 h
      exact Or.inr ⟨_, rfl⟩

theorem served_committed {op : Queue.Store.Operation} {r : op.Reply} {change : Option Queue.Change}
    (h : Program.Served (serve backend) p (committed op r change) p') :
    r = (p.store.apply op).reply ∧ change = (p.store.apply op).change ∧
      ∃ bus, p' = { p with store := (p.store.apply op).store, bus := bus } := by
  obtain ⟨hx, h⟩ := Program.served_cons.1 h
  obtain ⟨hr, hc⟩ := Prod.mk.inj hx
  refine ⟨hr, hc, ?_⟩
  cases change with
  | none =>
    obtain rfl := Program.served_nil.1 h
    exact ⟨p.bus, rfl⟩
  | some change =>
    obtain ⟨-, h⟩ := Program.served_cons.1 h
    obtain rfl := Program.served_nil.1 h
    exact ⟨_, rfl⟩

end Jukebox.Party
