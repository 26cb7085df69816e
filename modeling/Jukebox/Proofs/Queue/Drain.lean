import Jukebox.Proofs.Queue.Effects

/-!
# Popping until nothing is left

Popping looks at nothing but the fronts of the two queues.  That it yields the best entry is thus a fact
about how the queues stand, not about popping:

    every operation leaves both queues in rank order            (ordered_performAll)
    so nobody in the `line` outranks who stands before           (Ordered.line)
    and popping again and again yields the `line` from its front (performAll_pops)
-/

namespace Jukebox.Queue

/-- `a` is to be played before `b`: the queue for administrators comes first, then more votes, then the
smaller sequence number. -/
def Popped.Outranks (a b : Popped) : Prop :=
  a.queue = .admin ∧ b.queue = .normal ∨
    a.queue = b.queue ∧ (b.entry.score < a.entry.score ∨
      a.entry.score = b.entry.score ∧ a.entry.sequence < b.entry.sequence)

namespace Store

variable {s s' : Store} {change : Option Change}

/-- Everything that waits, each entry with its queue: first the queue for administrators. -/
def line (s : Store) : List Popped :=
  s.admin.map (⟨·, .admin⟩) ++ s.normal.map (⟨·, .normal⟩)

/-! ## Popping -/

/-- What is reported of popping. -/
def Report.ofPop : Option Popped → Report
  | some popped => ⟨.pop, some popped, some ⟨.popped, popped.entry.id, popped.queue⟩⟩
  | none => ⟨.pop, none, none⟩

/-- Popping takes the first one off the line. -/
theorem pop_line (s : Store) :
    s.line = [] ∧ s.pop = ⟨none, none, s⟩ ∨
    ∃ popped s', s.line = popped :: s'.line ∧
      s.pop = ⟨some popped, some ⟨.popped, popped.entry.id, popped.queue⟩, s'⟩ := by
  obtain ⟨normal, admin, next, playing⟩ := s
  cases admin with
  | cons e rest => exact Or.inr ⟨⟨e, .admin⟩, ⟨normal, rest, next, playing⟩, rfl, rfl⟩
  | nil =>
    cases normal with
    | cons e rest => exact Or.inr ⟨⟨e, .normal⟩, ⟨rest, [], next, playing⟩, rfl, rfl⟩
    | nil => exact Or.inl ⟨rfl, rfl⟩

/-- Popping `n` times yields the first `n` in the line, and nothing once it is empty. -/
theorem performAll_pops (n : Nat) (s : Store) :
    (s.performAll (List.replicate n .pop)).1 =
        ((s.line.take n).map some ++ List.replicate (n - s.line.length) none).map Report.ofPop ∧
      (s.performAll (List.replicate n .pop)).2.line = s.line.drop n := by
  induction n generalizing s with
  | zero => simp [performAll]
  | succ n ih =>
    obtain ⟨hreports, hline⟩ := ih s.pop.store
    have hfirst : (s.performAll (List.replicate (n + 1) .pop)).1 = ⟨.pop, s.pop.reply, s.pop.change⟩ ::
        (s.pop.store.performAll (List.replicate n .pop)).1 := rfl
    have hrest : (s.performAll (List.replicate (n + 1) .pop)).2 =
        (s.pop.store.performAll (List.replicate n .pop)).2 := rfl
    rw [hfirst, hrest, hreports, hline]
    rcases s.pop_line with ⟨hempty, ho⟩ | ⟨popped, s', hs, ho⟩ <;> rw [ho]
    · rw [hempty]
      simp [Report.ofPop, List.replicate_succ]
    · rw [hs]
      simp [Report.ofPop]

/-! ## The order of the line -/

/-- Both queues stand in rank order. -/
def Ordered (s : Store) : Prop :=
  ∀ kind, (s.queue kind).Pairwise fun a b => a.precedes b

theorem Ordered.setQueue (h : s.Ordered) {kind : Kind} {es : List Entry}
    (hes : es.Pairwise fun a b => a.precedes b) : (s.setQueue kind es).Ordered := by
  intro other
  by_cases hk : other = kind
  · subst hk
    rwa [queue_setQueue]
  · rw [queue_setQueue_of_ne s es hk]
    exact h other

theorem Ordered.congr (h : s.Ordered) (hsame : ∀ kind, s'.queue kind = s.queue kind) : s'.Ordered := by
  intro kind
  rw [hsame kind]
  exact h kind

theorem Ordered.insert (h : s.Ordered) (kind : Kind) (e : Entry) : (s.insert kind e).Ordered :=
  h.setQueue (Entry.pairwise_rank _)

theorem Ordered.erase (h : s.Ordered) (kind : Kind) (id : TrackId) : (s.erase kind id).Ordered :=
  h.setQueue ((h kind).sublist List.filter_sublist)

/-- Every effect leaves the queues in rank order. -/
theorem Ordered.effect (h : s.Ordered) (heffect : Effect s change s') : s'.Ordered := by
  cases heffect with
  | silent hsame => exact h.congr hsame
  | came htrigger hsame habsent => exact (h.congr hsame).insert _ _
  | went htrigger he => exact h.erase _ _
  | moved hne he hsame => exact ((h.erase _ _).congr hsame).insert _ _
  | voted he hchanges => exact h.setQueue (Entry.pairwise_rank _)

theorem ordered_empty : Store.empty.Ordered
  | .normal => List.Pairwise.nil
  | .admin => List.Pairwise.nil

/-- What any operations make of empty queues. -/
theorem ordered_performAll (ops : List Operation) : (Store.empty.performAll ops).2.Ordered :=
  performAll_invariant (s := .empty) Ordered (fun _ _ _ _ heffect h => h.effect heffect)
    List.nodup_nil ordered_empty ops

/-- The votes do not increase within a queue. -/
theorem Ordered.scores (h : s.Ordered) (kind : Kind) :
    (s.queue kind).Pairwise fun a b => b.score ≤ a.score := by
  refine (h kind).imp fun {a b} hab => ?_
  rcases Entry.precedes_iff.1 hab with hlt | ⟨heq, -⟩
  · exact Nat.le_of_lt hlt
  · exact Nat.le_of_eq heq.symm

/-- Nobody in the line outranks who stands before. -/
theorem Ordered.line (h : s.Ordered) : s.line.Pairwise fun a b => ¬ b.Outranks a := by
  have hqueue : ∀ kind, ((s.queue kind).map fun e => (⟨e, kind⟩ : Popped)).Pairwise
      fun a b => ¬ b.Outranks a := by
    intro kind
    rw [List.pairwise_map]
    refine (h kind).imp fun {a b} hab => ?_
    rw [Entry.precedes_iff] at hab
    unfold Popped.Outranks
    grind
  unfold Store.line
  rw [List.pairwise_append]
  refine ⟨hqueue .admin, hqueue .normal, fun a ha b hb => ?_⟩
  obtain ⟨x, -, rfl⟩ := List.mem_map.1 ha
  obtain ⟨y, -, rfl⟩ := List.mem_map.1 hb
  unfold Popped.Outranks
  simp

/-- Nobody in the line outranks who is popped. -/
theorem Ordered.pop (h : s.Ordered) {popped : Popped} (hpop : s.pop.reply = some popped) :
    ∀ x ∈ s.line, ¬ x.Outranks popped := by
  rcases s.pop_line with ⟨-, ho⟩ | ⟨first, s', hs, ho⟩ <;> rw [ho] at hpop
  · cases hpop
  · cases hpop
    have hline := h.line
    rw [hs] at hline ⊢
    intro x hx
    rcases List.mem_cons.1 hx with rfl | hx
    · unfold Popped.Outranks
      grind
    · exact List.rel_of_pairwise_cons hline hx

end Store
end Jukebox.Queue
