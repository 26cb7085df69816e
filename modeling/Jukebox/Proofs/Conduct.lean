import Jukebox.Proofs.Trace

/-!
# Programs that are under way

What a program has exchanged so far, and what is left of it, is said by `Leads`; `Program.Yields` is the
case in which nothing is left (`leads_done`).  What holds of all that a program may exchange holds of the
beginning of it, as what is left can be run to its end (`Leads.yields`, `exists_yields`).

A program `Follows` a diagram of stances if, whatever it is answered, each exchange takes it from its
stance to another one that the diagram allows, and it ends only where it may.  The stance stands for the
rest of the program, so that it can be forgotten: this is how programs that take turns are reasoned about.
Programs follow a diagram if their parts do (`Follows.bind`).

A program `Relies` on its answers if it asks only what is allowed as long as they are fair.
-/

namespace Jukebox.Program

variable {I : Interface} {α β ε : Type}

/-! ## What is left of a program -/

/-- Answered as the exchanges say, the first program goes on as the second. -/
inductive Leads : Program I α → List (Exchange I) → Program I α → Prop
  | nil (p : Program I α) : Leads p [] p
  | ask {r : I.Request} {next : I.Answer r → Program I α} {x : I.Answer r}
      {t : List (Exchange I)} {q : Program I α} :
      Leads (next x) t q → Leads (.ask r next) (⟨r, x⟩ :: t) q

/-- One more question is answered. -/
theorem Leads.snoc {p : Program I α} {t : List (Exchange I)} {r : I.Request}
    {next : I.Answer r → Program I α} (h : p.Leads t (.ask r next)) (x : I.Answer r) :
    p.Leads (t ++ [⟨r, x⟩]) (next x) := by
  generalize hq : Program.ask r next = q at h
  induction h with
  | nil p =>
    subst hq
    exact .ask (.nil _)
  | ask _ ih => exact .ask (ih hq)

theorem Leads.yields {p q : Program I α} {t u : List (Exchange I)} {a : α} (h : p.Leads t q)
    (hq : q.Yields u a) : p.Yields (t ++ u) a := by
  induction h with
  | nil p => exact hq
  | ask _ ih => exact .ask (ih hq)

theorem leads_done {p : Program I α} {t : List (Exchange I)} {a : α} :
    p.Leads t (.done a) ↔ p.Yields t a := by
  constructor
  · intro h
    simpa using h.yields (.done a)
  · intro h
    induction h with
    | done a => exact .nil _
    | ask _ ih => exact .ask ih

/-- Where every question can be answered, a program can be run to its end. -/
theorem exists_yields [∀ r, Nonempty (I.Answer r)] (p : Program I α) : ∃ t a, p.Yields t a := by
  induction p with
  | done a => exact ⟨[], a, .done a⟩
  | ask r next ih =>
    obtain ⟨x⟩ := (inferInstance : Nonempty (I.Answer r))
    obtain ⟨t, a, h⟩ := ih x
    exact ⟨⟨r, x⟩ :: t, a, .ask h⟩

/-! ## Programs that follow a diagram -/

variable {S : Type} {may : S → Exchange I → S → Prop}

/-- Whatever the program is answered, there is a stance to go on from with each exchange, and it may end
where it ends. -/
def Follows (may : S → Exchange I → S → Prop) (ends : S → α → Prop) : Program I α → S → Prop
  | .done a, s => ends s a
  | .ask r next, s => ∀ x, ∃ s', may s ⟨r, x⟩ s' ∧ (next x).Follows may ends s'

theorem follows_pure {ends : S → α → Prop} {a : α} {s : S} (h : ends s a) :
    (pure a : Program I α).Follows may ends s := h

theorem follows_request {r : I.Request} {ends : S → I.Answer r → Prop} {s : S}
    (h : ∀ x, ∃ s', may s ⟨r, x⟩ s' ∧ ends s' x) : (request r).Follows may ends s := h

theorem Follows.bind {p : Program I α} {f : α → Program I β} {mid : S → α → Prop}
    {ends : S → β → Prop} {s : S} (hp : p.Follows may mid s)
    (hf : ∀ s' a, mid s' a → (f a).Follows may ends s') : (p >>= f).Follows may ends s := by
  induction p generalizing s with
  | done a => exact hf s a hp
  | ask r next ih =>
    intro x
    obtain ⟨s', hmay, hnext⟩ := hp x
    exact ⟨s', hmay, ih x hnext⟩

/-- A program that may fail ends at once if its first part does. -/
theorem Follows.bind_run {x : ExceptT ε (Program I) α} {f : α → ExceptT ε (Program I) β}
    {mid : S → Except ε α → Prop} {ends : S → Except ε β → Prop} {s : S}
    (hx : x.run.Follows may mid s) (hok : ∀ s' a, mid s' (.ok a) → (f a).run.Follows may ends s')
    (herror : ∀ s' e, mid s' (.error e) → ends s' (.error e)) :
    (x >>= f).run.Follows may ends s := by
  rw [ExceptT.run_bind]
  refine hx.bind fun s' r hr => ?_
  cases r with
  | ok a => exact hok s' a hr
  | error e => exact follows_pure (herror s' e hr)

theorem Follows.mono {p : Program I α} {ends ends' : S → α → Prop} {s : S} (h : p.Follows may ends s)
    (hends : ∀ s a, ends s a → ends' s a) : p.Follows may ends' s := by
  induction p generalizing s with
  | done a => exact hends s a h
  | ask r next ih =>
    intro x
    obtain ⟨s', hmay, hnext⟩ := h x
    exact ⟨s', hmay, ih x hnext⟩

/-! ## Programs that rely on their answers -/

/-- As long as the answers are `fair`, the program asks only what is `allowed`, and it ends with what is
`meant`. -/
def Relies (fair : Exchange I → Prop) (allowed : I.Request → Prop) (meant : α → Prop) :
    Program I α → Prop
  | .done a => meant a
  | .ask r next => allowed r ∧ ∀ x, fair ⟨r, x⟩ → (next x).Relies fair allowed meant

variable {fair : Exchange I → Prop} {allowed : I.Request → Prop}

theorem relies_pure {meant : α → Prop} {a : α} (h : meant a) :
    (pure a : Program I α).Relies fair allowed meant := h

theorem relies_request {r : I.Request} {meant : I.Answer r → Prop} (hr : allowed r)
    (h : ∀ x, fair ⟨r, x⟩ → meant x) : (request r).Relies fair allowed meant :=
  ⟨hr, h⟩

theorem Relies.bind {p : Program I α} {f : α → Program I β} {mid : α → Prop} {meant : β → Prop}
    (hp : p.Relies fair allowed mid) (hf : ∀ a, mid a → (f a).Relies fair allowed meant) :
    (p >>= f).Relies fair allowed meant := by
  induction p with
  | done a => exact hf a hp
  | ask r next ih => exact ⟨hp.1, fun x hx => ih x (hp.2 x hx)⟩

/-- A program that may fail goes on only after success. -/
theorem Relies.bind_run {x : ExceptT ε (Program I) α} {f : α → ExceptT ε (Program I) β}
    {mid : Except ε α → Prop} {meant : Except ε β → Prop} (hx : x.run.Relies fair allowed mid)
    (hok : ∀ a, mid (.ok a) → (f a).run.Relies fair allowed meant)
    (herror : ∀ e, mid (.error e) → meant (.error e)) : (x >>= f).run.Relies fair allowed meant := by
  rw [ExceptT.run_bind]
  refine hx.bind fun r hr => ?_
  cases r with
  | ok a => exact hok a hr
  | error e => exact relies_pure (herror e hr)

/-- Where every allowed step keeps an invariant of the state, and is answered fairly at honest moments, a run
at honest moments only keeps the invariant and ends with what is meant. -/
theorem Relies.run {σ : Type} {serve : (r : I.Request) → σ → I.Answer r × σ} {honest : Moment I σ → Prop}
    {inv : σ → Prop} {p : Program I α} {meant : α → Prop} (hp : p.Relies fair allowed meant)
    (hserve : ∀ m : Moment I σ, allowed m.request → inv m.state → honest m →
      fair (m.exchange serve) ∧ inv (serve m.request m.state).2)
    {s : σ} (hs : inv s) (hhonest : ∀ m ∈ p.moments serve s, honest m) :
    meant (p.run serve s).1 ∧ inv (p.run serve s).2 := by
  induction p generalizing s with
  | done a => exact ⟨hp, hs⟩
  | ask r next ih =>
    obtain ⟨hfirst, hrest⟩ := List.forall_mem_cons.1 hhonest
    obtain ⟨hfair, hinv⟩ := hserve ⟨r, s⟩ hp.1 hs hfirst
    exact ih _ (hp.2 _ hfair) hinv hrest

/-- What is only asked for anyway, and what follows from fair answers to all of it. -/
theorem Only.relies {p : Program I α} {meant : α → Prop} (hp : p.Only allowed)
    (h : ∀ t a, p.Yields t a → (∀ x ∈ t, fair x) → meant a) : p.Relies fair allowed meant := by
  induction p with
  | done a => exact h [] a (.done a) (by simp)
  | ask r next ih =>
    refine ⟨hp.1, fun x hx => ih x (hp.2 x) fun t a hy ht => ?_⟩
    exact h (⟨r, x⟩ :: t) a (.ask hy) (List.forall_mem_cons.2 ⟨hx, ht⟩)

end Jukebox.Program
