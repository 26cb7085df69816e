import Jukebox.Program

/-!
# What programs exchange

An `Exchange` is a question with its answer.  What a program does is said in two independent parts:

* `p.Yields t a`: if it is answered as `t` says, `p` ends with `a`.  Nothing is said of who answers, so a
  fact about all `t` is a fact about every service and every order of events.
* `Served serve s t s'`: `serve` answers as `t` says if it starts in `s`, and ends in `s'`.

A run is both together (`Ends`), and `Program.run` is one (`ends_run`).  Where several programs take turns,
each of them sees the service at some moments only; a `Moment` is a question and the state in which it
was answered.
-/

namespace Jukebox

/-- A question and what was answered to it. -/
structure Exchange (I : Interface) where
  request : I.Request
  answer : I.Answer request

/-- A question and the state in which it was answered. -/
structure Moment (I : Interface) (σ : Type) where
  request : I.Request
  state : σ

/-- What is exchanged at a moment. -/
def Moment.exchange {I : Interface} {σ : Type} (serve : (r : I.Request) → σ → I.Answer r × σ)
    (m : Moment I σ) : Exchange I :=
  ⟨m.request, (serve m.request m.state).1⟩

/-- What is in a log was put there last, or it was in the log before. -/
theorem concat_eq_append_cons {α : Type} {log before after : List α} {o x : α}
    (h : log ++ [o] = before ++ x :: after) :
    after = [] ∧ o = x ∧ log = before ∨
      ∃ back, after = back ++ [o] ∧ log = before ++ x :: back := by
  rcases List.append_eq_append_iff.1 h with ⟨mid, rfl, hmid⟩ | ⟨mid, rfl, hmid⟩
  · -- `before` goes as far as the log, so `x` can only be the last one.
    cases mid with
    | nil =>
      cases hmid
      exact Or.inl ⟨rfl, rfl, (List.append_nil log).symm⟩
    | cons y mid => cases mid <;> cases hmid
  · rcases List.cons_eq_append_iff.1 hmid with ⟨rfl, hx⟩ | ⟨back, rfl, hafter⟩
    · cases hx
      exact Or.inl ⟨rfl, rfl, List.append_nil before⟩
    · exact Or.inr ⟨back, hafter, rfl⟩

namespace Program

variable {I : Interface} {α β ε σ : Type} {serve : (r : I.Request) → σ → I.Answer r × σ}

/-! ## Every possible answer -/

/-- Answered as `t` says, in this order, the program ends with `a`. -/
inductive Yields : Program I α → List (Exchange I) → α → Prop
  | done (a : α) : Yields (.done a) [] a
  | ask {r : I.Request} {next : I.Answer r → Program I α} {x : I.Answer r}
      {t : List (Exchange I)} {a : α} :
      Yields (next x) t a → Yields (.ask r next) (⟨r, x⟩ :: t) a

theorem yields_pure {a b : α} {t : List (Exchange I)} :
    (pure a : Program I α).Yields t b ↔ t = [] ∧ a = b := by
  constructor
  · intro h
    cases h
    exact ⟨rfl, rfl⟩
  · rintro ⟨rfl, rfl⟩
    exact .done a

theorem yields_request {r : I.Request} {t : List (Exchange I)} {x : I.Answer r} :
    (request r).Yields t x ↔ t = [⟨r, x⟩] := by
  constructor
  · intro h
    cases h with
    | ask h =>
      cases h
      rfl
  · rintro rfl
    exact .ask (.done x)

theorem yields_bind {p : Program I α} {f : α → Program I β} {t : List (Exchange I)} {b : β} :
    (p >>= f).Yields t b ↔ ∃ t₁ t₂ a, t = t₁ ++ t₂ ∧ p.Yields t₁ a ∧ (f a).Yields t₂ b := by
  induction p generalizing t with
  | done a =>
    constructor
    · intro h
      exact ⟨[], t, a, rfl, .done a, h⟩
    · rintro ⟨t₁, t₂, a', rfl, h, h'⟩
      cases h
      exact h'
  | ask r next ih =>
    constructor
    · intro h
      cases h with
      | ask h =>
        obtain ⟨t₁, t₂, a, rfl, h₁, h₂⟩ := (ih _).1 h
        exact ⟨_, t₂, a, rfl, .ask h₁, h₂⟩
    · rintro ⟨t₁, t₂, a, rfl, h₁, h₂⟩
      cases h₁ with
      | ask h₁ => exact .ask ((ih _).2 ⟨_, t₂, a, rfl, h₁, h₂⟩)

/-- A program that may fail goes on only after success. -/
theorem yields_bind_run {x : ExceptT ε (Program I) α} {f : α → ExceptT ε (Program I) β}
    {t : List (Exchange I)} {r : Except ε β} :
    (x >>= f).run.Yields t r ↔
      (∃ t₁ t₂ a, t = t₁ ++ t₂ ∧ x.run.Yields t₁ (.ok a) ∧ (f a).run.Yields t₂ r) ∨
      ∃ e, x.run.Yields t (.error e) ∧ r = .error e := by
  rw [ExceptT.run_bind, yields_bind]
  constructor
  · rintro ⟨t₁, t₂, a, rfl, h₁, h₂⟩
    cases a with
    | ok a => exact Or.inl ⟨t₁, t₂, a, rfl, h₁, h₂⟩
    | error e =>
      obtain ⟨rfl, rfl⟩ := yields_pure.1 h₂
      exact Or.inr ⟨e, by rwa [List.append_nil], rfl⟩
  · rintro (⟨t₁, t₂, a, rfl, h₁, h₂⟩ | ⟨e, h, rfl⟩)
    · exact ⟨t₁, t₂, _, rfl, h₁, h₂⟩
    · exact ⟨t, [], _, (List.append_nil t).symm, h, yields_pure.2 ⟨rfl, rfl⟩⟩

/-- A step within a program that may fail does not fail. -/
theorem yields_bind_lift {p : Program I α} {f : α → ExceptT ε (Program I) β}
    {t : List (Exchange I)} {r : Except ε β} :
    ((liftM p : ExceptT ε (Program I) α) >>= f).run.Yields t r ↔
      ∃ t₁ t₂ a, t = t₁ ++ t₂ ∧ p.Yields t₁ a ∧ (f a).run.Yields t₂ r := by
  have hb : ((liftM p : ExceptT ε (Program I) α) >>= f).run = p >>= fun a => (f a).run :=
    ExceptT.run_bind_lift p f
  rw [hb]
  exact yields_bind

/-- Answered the same, a program asks the same and ends the same. -/
theorem Yields.unique {p : Program I α} {t t' u u' : List (Exchange I)} {a a' : α}
    (h : p.Yields t a) (h' : p.Yields t' a') (heq : t ++ u = t' ++ u') : t = t' ∧ a = a' := by
  induction h generalizing t' with
  | done a =>
    cases h'
    exact ⟨rfl, rfl⟩
  | ask _ ih =>
    cases h' with
    | ask h' =>
      obtain ⟨hx, hrest⟩ := List.cons.inj heq
      cases hx
      obtain ⟨rfl, rfl⟩ := ih h' hrest
      exact ⟨rfl, rfl⟩

/-! ## One service that answers -/

/-- From the state `s`, `serve` answers as `t` says, and ends in the state `s'`. -/
inductive Served (serve : (r : I.Request) → σ → I.Answer r × σ) : σ → List (Exchange I) → σ → Prop
  | nil (s : σ) : Served serve s [] s
  | cons {r : I.Request} {s s' : σ} {t : List (Exchange I)} :
      Served serve (serve r s).2 t s' → Served serve s (⟨r, (serve r s).1⟩ :: t) s'

theorem served_nil {s s' : σ} : Served serve s [] s' ↔ s' = s := by
  constructor
  · intro h
    cases h
    rfl
  · rintro rfl
    exact .nil s'

theorem served_cons {r : I.Request} {x : I.Answer r} {t : List (Exchange I)} {s s' : σ} :
    Served serve s (⟨r, x⟩ :: t) s' ↔ x = (serve r s).1 ∧ Served serve (serve r s).2 t s' := by
  constructor
  · intro h
    cases h with
    | cons h => exact ⟨rfl, h⟩
  · rintro ⟨rfl, h⟩
    exact .cons h

theorem served_append {t₁ t₂ : List (Exchange I)} {s s' : σ} :
    Served serve s (t₁ ++ t₂) s' ↔ ∃ s₁, Served serve s t₁ s₁ ∧ Served serve s₁ t₂ s' := by
  induction t₁ generalizing s with
  | nil =>
    constructor
    · intro h
      exact ⟨s, .nil s, h⟩
    · rintro ⟨s₁, h₁, h₂⟩
      obtain rfl := served_nil.1 h₁
      exact h₂
  | cons x t₁ ih =>
    obtain ⟨r, x⟩ := x
    rw [List.cons_append, served_cons, ih]
    constructor
    · rintro ⟨hx, s₁, h₁, h₂⟩
      exact ⟨s₁, served_cons.2 ⟨hx, h₁⟩, h₂⟩
    · rintro ⟨s₁, h₁, h₂⟩
      obtain ⟨hx, h₁⟩ := served_cons.1 h₁
      exact ⟨hx, s₁, h₁, h₂⟩

/-- What every answer satisfies, and every step keeps, holds throughout. -/
theorem Served.invariant (inv : σ → Prop) (good : Exchange I → Prop)
    (hstep : ∀ r s, inv s → good ⟨r, (serve r s).1⟩ ∧ inv (serve r s).2) {s s' : σ}
    {t : List (Exchange I)} (h : Served serve s t s') (hs : inv s) :
    (∀ x ∈ t, good x) ∧ inv s' := by
  induction h with
  | nil s => exact ⟨fun x hx => absurd hx List.not_mem_nil, hs⟩
  | @cons r s s' t _ ih =>
    obtain ⟨hgood, hinv⟩ := hstep r s hs
    obtain ⟨hall, hend⟩ := ih hinv
    exact ⟨List.forall_mem_cons.2 ⟨hgood, hall⟩, hend⟩

/-! ## Runs -/

/-- From the state `s` the program exchanges `t` and ends with `a` in the state `s'`. -/
structure Ends (p : Program I α) (serve : (r : I.Request) → σ → I.Answer r × σ) (s : σ)
    (t : List (Exchange I)) (a : α) (s' : σ) : Prop where
  yields : p.Yields t a
  served : Served serve s t s'

theorem ends_bind {p : Program I α} {f : α → Program I β} {s s' : σ} {t : List (Exchange I)} {b : β} :
    (p >>= f).Ends serve s t b s' ↔ ∃ t₁ t₂ a s₁, t = t₁ ++ t₂ ∧
      p.Ends serve s t₁ a s₁ ∧ (f a).Ends serve s₁ t₂ b s' := by
  constructor
  · rintro ⟨hy, hs⟩
    obtain ⟨t₁, t₂, a, rfl, hy₁, hy₂⟩ := yields_bind.1 hy
    obtain ⟨s₁, hs₁, hs₂⟩ := served_append.1 hs
    exact ⟨t₁, t₂, a, s₁, rfl, ⟨hy₁, hs₁⟩, hy₂, hs₂⟩
  · rintro ⟨t₁, t₂, a, s₁, rfl, h₁, h₂⟩
    exact ⟨yields_bind.2 ⟨t₁, t₂, a, rfl, h₁.yields, h₂.yields⟩,
      served_append.2 ⟨s₁, h₁.served, h₂.served⟩⟩

theorem ends_bind_run {x : ExceptT ε (Program I) α} {f : α → ExceptT ε (Program I) β} {s s' : σ}
    {t : List (Exchange I)} {r : Except ε β} :
    (x >>= f).run.Ends serve s t r s' ↔
      (∃ t₁ t₂ a s₁, t = t₁ ++ t₂ ∧ x.run.Ends serve s t₁ (.ok a) s₁ ∧
        (f a).run.Ends serve s₁ t₂ r s') ∨
      ∃ e, x.run.Ends serve s t (.error e) s' ∧ r = .error e := by
  constructor
  · rintro ⟨hy, hs⟩
    rcases yields_bind_run.1 hy with ⟨t₁, t₂, a, rfl, hy₁, hy₂⟩ | ⟨e, he, rfl⟩
    · obtain ⟨s₁, hs₁, hs₂⟩ := served_append.1 hs
      exact Or.inl ⟨t₁, t₂, a, s₁, rfl, ⟨hy₁, hs₁⟩, hy₂, hs₂⟩
    · exact Or.inr ⟨e, ⟨he, hs⟩, rfl⟩
  · rintro (⟨t₁, t₂, a, s₁, rfl, h₁, h₂⟩ | ⟨e, h, rfl⟩)
    · exact ⟨yields_bind_run.2 (Or.inl ⟨t₁, t₂, a, rfl, h₁.yields, h₂.yields⟩),
        served_append.2 ⟨s₁, h₁.served, h₂.served⟩⟩
    · exact ⟨yields_bind_run.2 (Or.inr ⟨e, h.yields, rfl⟩), h.served⟩

/-- A step within a program that may fail does not fail. -/
theorem ends_bind_lift {p : Program I α} {f : α → ExceptT ε (Program I) β} {s s' : σ}
    {t : List (Exchange I)} {r : Except ε β} :
    ((liftM p : ExceptT ε (Program I) α) >>= f).run.Ends serve s t r s' ↔
      ∃ t₁ t₂ a s₁, t = t₁ ++ t₂ ∧ p.Ends serve s t₁ a s₁ ∧ (f a).run.Ends serve s₁ t₂ r s' := by
  have hb : ((liftM p : ExceptT ε (Program I) α) >>= f).run = p >>= fun a => (f a).run :=
    ExceptT.run_bind_lift p f
  rw [hb]
  exact ends_bind

theorem ends_pure {a b : α} {t : List (Exchange I)} {s s' : σ} :
    (pure a : Program I α).Ends serve s t b s' ↔ t = [] ∧ b = a ∧ s' = s := by
  constructor
  · rintro ⟨hy, hs⟩
    obtain ⟨rfl, rfl⟩ := yields_pure.1 hy
    exact ⟨rfl, rfl, served_nil.1 hs⟩
  · rintro ⟨rfl, rfl, rfl⟩
    exact ⟨.done b, .nil s'⟩

theorem ends_request {r : I.Request} {x : I.Answer r} {t : List (Exchange I)} {s s' : σ} :
    (request r).Ends serve s t x s' ↔ t = [⟨r, x⟩] ∧ x = (serve r s).1 ∧ s' = (serve r s).2 := by
  constructor
  · rintro ⟨hy, hs⟩
    obtain rfl := yields_request.1 hy
    obtain ⟨hx, hs⟩ := served_cons.1 hs
    exact ⟨rfl, hx, served_nil.1 hs⟩
  · rintro ⟨rfl, hx, rfl⟩
    exact ⟨yields_request.2 rfl, served_cons.2 ⟨hx, .nil _⟩⟩

/-- The questions of a run and the states in which they are answered. -/
def moments (serve : (r : I.Request) → σ → I.Answer r × σ) : Program I α → σ → List (Moment I σ)
  | .done _, _ => []
  | .ask r next, s => ⟨r, s⟩ :: (next (serve r s).1).moments serve (serve r s).2

/-- What every answer keeps of the state holds at all moments of a run, and at its end. -/
theorem moments_invariant {inv : σ → Prop} (hserve : ∀ r s, inv s → inv (serve r s).2)
    (p : Program I α) {s : σ} (hs : inv s) :
    (∀ m ∈ p.moments serve s, inv m.state) ∧ inv (p.run serve s).2 := by
  induction p generalizing s with
  | done a => exact ⟨fun m hm => absurd hm List.not_mem_nil, hs⟩
  | ask r next ih =>
    obtain ⟨hall, hend⟩ := ih _ (hserve r s hs)
    exact ⟨List.forall_mem_cons.2 ⟨hs, hall⟩, hend⟩

/-- The exchanges of a run. -/
def trace (serve : (r : I.Request) → σ → I.Answer r × σ) (p : Program I α) (s : σ) :
    List (Exchange I) :=
  (p.moments serve s).map (Moment.exchange serve)

/-- What was exchanged in a run was answered in some state. -/
theorem exists_moment {p : Program I α} {s : σ} {x : Exchange I} (h : x ∈ p.trace serve s) :
    ∃ s', ⟨x.request, s'⟩ ∈ p.moments serve s ∧ x.answer = (serve x.request s').1 := by
  obtain ⟨m, hm, rfl⟩ := List.mem_map.1 h
  exact ⟨m.state, hm, rfl⟩

theorem ends_run (p : Program I α) (serve : (r : I.Request) → σ → I.Answer r × σ) (s : σ) :
    p.Ends serve s (p.trace serve s) (p.run serve s).1 (p.run serve s).2 := by
  induction p generalizing s with
  | done a => exact ⟨.done a, .nil s⟩
  | ask r next ih => exact ⟨.ask (ih _ _).yields, .cons (ih _ _).served⟩

/-! ## What a program may ask -/

/-- Whatever it is answered, the program asks only what is `allowed`. -/
def Only (allowed : I.Request → Prop) : Program I α → Prop
  | .done _ => True
  | .ask r next => allowed r ∧ ∀ x, (next x).Only allowed

variable {allowed : I.Request → Prop}

theorem only_pure (a : α) : (pure a : Program I α).Only allowed := trivial

theorem only_request {r : I.Request} (h : allowed r) : (request r).Only allowed :=
  ⟨h, fun _ => trivial⟩

theorem Only.bind {p : Program I α} {f : α → Program I β} (hp : p.Only allowed)
    (hf : ∀ a, (f a).Only allowed) : (p >>= f).Only allowed := by
  induction p with
  | done a => exact hf a
  | ask r next ih => exact ⟨hp.1, fun x => ih x (hp.2 x)⟩

theorem Only.bind_run {x : ExceptT ε (Program I) α} {f : α → ExceptT ε (Program I) β}
    (hx : x.run.Only allowed) (hf : ∀ a, (f a).run.Only allowed) : (x >>= f).run.Only allowed := by
  rw [ExceptT.run_bind]
  refine hx.bind fun r => ?_
  cases r with
  | ok a => exact hf a
  | error e => exact only_pure _

theorem Only.yields {p : Program I α} {t : List (Exchange I)} {a : α} (hp : p.Only allowed)
    (h : p.Yields t a) : ∀ x ∈ t, allowed x.request := by
  induction h with
  | done a => exact fun x hx => absurd hx List.not_mem_nil
  | ask _ ih => exact List.forall_mem_cons.2 ⟨hp.1, ih (hp.2 _)⟩

end Program
end Jukebox
