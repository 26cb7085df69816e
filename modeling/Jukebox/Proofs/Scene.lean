import Jukebox.Proofs.Conduct

/-!
# Programs that take turns

At a `Venue` deeds are done: each is a program, and all of them are served from one state.  In a `Scene`
any number of them are under way.  At a `Pick` a new deed begins, or one that is under way takes a single
step and is suspended again; a step that takes a lock is put off while another deed holds it.  Lists of
picks stand for all orders of events.

    a scene's invariant is shown once for a deed that begins and once for a step   (Scene.run_invariant)
    what a deed has exchanged is what its program leads through                    (Scene.leads_run)
    locks pass from hand to hand, from one stance of a deed to the next            (Holding.stepped)
    what all deeds keep holds as long as the answers they rely on are honest       (Scene.run_relies)
-/

namespace Jukebox

/-- Where deeds are done: their programs, who answers the steps, and which steps take locks or give them
back. -/
structure Venue (I : Interface) (σ D L : Type) where
  /-- What is answered to a deed. -/
  Result : D → Type
  /-- What a deed changes before any steps are made. -/
  effect : D → σ → σ
  /-- The steps of a deed. -/
  program : (d : D) → σ → Program I (Result d)
  serve : (r : I.Request) → σ → I.Answer r × σ
  /-- The lock that a step takes. -/
  takes : I.Request → Option L
  /-- The lock that a step gives back. -/
  frees : I.Request → Option L

/-- What happens next. -/
inductive Pick (D : Type) where
  /-- A deed begins. -/
  | begin (d : D)
  /-- The deed of this number takes one step, if there is one left that it may take. -/
  | proceed (who : Nat)

namespace Venue

variable {I : Interface} {σ D L : Type}

/-- A deed under way and what is left of it. -/
structure Pending (V : Venue I σ D L) where
  deed : D
  rest : Program I (V.Result deed)

/-- A step that was taken, by whom, in which state, and who held the locks then. -/
structure Step (V : Venue I σ D L) extends Moment I σ where
  who : Nat
  holder : L → Option Nat

/-- What was asked and answered in a step. -/
def Step.exchanged {V : Venue I σ D L} (x : V.Step) : Exchange I :=
  x.toMoment.exchange V.serve

/-- The state that a step led to. -/
def Step.after {V : Venue I σ D L} (x : V.Step) : σ :=
  (V.serve x.request x.state).2

/-- The steps taken so far, the present state, who holds the locks, and the deeds under way. -/
structure Scene (V : Venue I σ D L) where
  log : List V.Step
  state : σ
  holder : L → Option Nat
  pending : List V.Pending

namespace Scene

variable {V : Venue I σ D L}

/-- Nothing has happened yet. -/
def start (V : Venue I σ D L) (s : σ) : V.Scene :=
  ⟨[], s, fun _ => none, []⟩

/-- The scene after a deed began. -/
def begun (c : V.Scene) (d : D) : V.Scene :=
  { c with
    state := V.effect d c.state
    pending := c.pending ++ [⟨d, V.program d c.state⟩] }

/-- The steps of one deed. -/
def own (c : V.Scene) (who : Nat) : List V.Step :=
  c.log.filter (·.who = who)

/-! ## Deeds that begin -/

/-- What is in a list after one more element was put at its end. -/
theorem getElem?_concat {α : Type} {l : List α} {x y : α} {i : Nat} (h : (l ++ [x])[i]? = some y) :
    (i = l.length ∧ y = x) ∨ l[i]? = some y := by
  rw [List.getElem?_append] at h
  split at h
  · exact Or.inr h
  · obtain ⟨hlt, rfl⟩ := List.getElem?_eq_some_iff.1 h
    rw [List.length_singleton] at hlt
    exact Or.inl ⟨by omega, by simp only [List.getElem_singleton]⟩

/-- What is in a list after one element was replaced. -/
theorem getElem?_of_set {α : Type} {l : List α} {x y : α} {i j : Nat} (hi : i < l.length)
    (h : (l.set i x)[j]? = some y) : (j = i ∧ y = x) ∨ (j ≠ i ∧ l[j]? = some y) := by
  by_cases heq : i = j
  · subst heq
    rw [List.getElem?_set_self hi] at h
    exact Or.inl ⟨rfl, (Option.some.inj h).symm⟩
  · rw [List.getElem?_set_ne heq] at h
    exact Or.inr ⟨Ne.symm heq, h⟩

/-- No more deeds have taken steps than are known. -/
def Counted (c : V.Scene) : Prop :=
  ∀ x ∈ c.log, x.who < c.pending.length

theorem own_eq_nil {c : V.Scene} (hc : c.Counted) {who : Nat} (hwho : c.pending.length ≤ who) :
    c.own who = [] := by
  refine List.filter_eq_nil_iff.2 fun x hx => ?_
  have hlt := hc x hx
  simp only [decide_eq_true_eq]
  omega

theorem pending_lt {c : V.Scene} {who : Nat} {q : V.Pending} (h : c.pending[who]? = some q) :
    who < c.pending.length :=
  (List.getElem?_eq_some_iff.1 h).1

theorem counted_begun {c : V.Scene} (hc : c.Counted) (d : D) : (c.begun d).Counted := by
  intro x hx
  have hlt := hc x hx
  simp only [begun, List.length_append, List.length_singleton]
  omega

/-- What is known of a deed under way after another one began. -/
theorem pending_begun {c : V.Scene} {other : Nat} {d : D} {q : V.Pending}
    (h : (c.begun d).pending[other]? = some q) :
    (other = c.pending.length ∧ q = ⟨d, V.program d c.state⟩) ∨ c.pending[other]? = some q :=
  getElem?_concat h

/-! ## Turns -/

end Scene

variable [DecidableEq L]

/-- The step need not wait for a lock. -/
def admits (V : Venue I σ D L) (r : I.Request) (holder : L → Option Nat) : Bool :=
  (V.takes r).all fun lock => (holder lock).isNone

/-- Who holds the locks after a step. -/
def passed (V : Venue I σ D L) (r : I.Request) (who : Nat) (holder : L → Option Nat) :
    L → Option Nat :=
  fun lock =>
    if V.takes r = some lock then some who
    else if V.frees r = some lock then none
    else holder lock

/-! ## Locks -/

/-- Each lock is held by the deed whose stance says so. -/
def Holding {S : Type} (held : S → Option L) (stances : List S) (holder : L → Option Nat) : Prop :=
  ∀ lock who, holder lock = some who ↔ ∃ s, stances[who]? = some s ∧ held s = some lock

/-- What a step has to do with the lock that a deed holds: nothing, or it takes it, or it gives it back. -/
inductive Passes (V : Venue I σ D L) (r : I.Request) : Option L → Option L → Prop
  | stays {held : Option L} (ht : V.takes r = none) (hf : V.frees r = none) : Passes V r held held
  | takes {lock : L} (ht : V.takes r = some lock) (hf : V.frees r = none) : Passes V r none (some lock)
  | frees {lock : L} (ht : V.takes r = none) (hf : V.frees r = some lock) : Passes V r (some lock) none

section
variable {V : Venue I σ D L} {S : Type} {held : S → Option L} {stances : List S} {s s' : S}
  {holder : L → Option Nat} {who : Nat} {r : I.Request}

omit [DecidableEq L] in
theorem Holding.lt (h : Holding held stances holder) {lock : L} (hwho : holder lock = some who) :
    who < stances.length := by
  obtain ⟨s, hs, -⟩ := (h lock who).1 hwho
  exact (List.getElem?_eq_some_iff.1 hs).1

omit [DecidableEq L] in
theorem Holding.holder_iff (h : Holding held stances holder) (hs : stances[who]? = some s) (lock : L) :
    holder lock = some who ↔ held s = some lock := by
  rw [h lock who, hs]
  simp

omit [DecidableEq L] in
/-- A deed that begins holds no lock. -/
theorem Holding.begun (h : Holding held stances holder) (hs : held s = none) :
    Holding held (stances ++ [s]) holder := by
  intro lock who
  refine (h lock who).trans ⟨?_, ?_⟩
  · rintro ⟨t, ht, hheld⟩
    exact ⟨t, by rw [List.getElem?_append_left (List.getElem?_eq_some_iff.1 ht).1]; exact ht, hheld⟩
  · rintro ⟨t, ht, hheld⟩
    rcases Scene.getElem?_concat ht with ⟨-, rfl⟩ | hold
    · rw [hs] at hheld
      cases hheld
    · exact ⟨t, hold, hheld⟩

/-- A lock passes from hand to hand. -/
theorem Holding.stepped (h : Holding held stances holder) (hs : stances[who]? = some s)
    (hpasses : V.Passes r (held s) (held s')) (hadmits : V.admits r holder = true) :
    Holding held (stances.set who s') (V.passed r who holder) := by
  have hlt := (List.getElem?_eq_some_iff.1 hs).1
  have hown := h.holder_iff hs
  intro lock other
  unfold passed
  by_cases hother : who = other
  · subst hother
    rw [List.getElem?_set_self hlt]
    simp only [Option.some.injEq, exists_eq_left']
    generalize held s = before at hpasses hown
    generalize held s' = after at hpasses
    cases hpasses with
    | stays ht hf =>
      rw [ht, hf]
      simpa using hown lock
    | @takes l ht hf =>
      have hno : holder lock ≠ some who := by
        rw [Ne, hown]
        nofun
      by_cases hl : l = lock <;> simp [ht, hf, hl, hno]
    | @frees l ht hf =>
      by_cases hl : l = lock
      · simp [ht, hf, hl]
      · have hno : holder lock ≠ some who := by
          rw [Ne, hown]
          simpa using hl
        simp [ht, hf, hl, hno]
  · rw [List.getElem?_set_ne hother, ← h lock other]
    generalize held s = before at hpasses hown
    generalize held s' = after at hpasses
    cases hpasses with
    | stays ht hf => simp [ht, hf]
    | @takes l ht hf =>
      by_cases hl : l = lock
      · have hnone : holder lock = none := by
          unfold admits at hadmits
          rw [ht] at hadmits
          simpa [hl] using hadmits
        simp [ht, hl, hnone, hother]
      · simp [ht, hf, hl]
    | @frees l ht hf =>
      by_cases hl : l = lock
      · have hwho : holder lock = some who := (hown lock).2 (congrArg some hl)
        simp [ht, hf, hl, hwho, hother]
      · simp [ht, hf, hl]

end

namespace Scene

variable {V : Venue I σ D L}

/-- The scene after a step of a deed under way. -/
def stepped (c : V.Scene) (who : Nat) (d : D) (r : I.Request)
    (next : I.Answer r → Program I (V.Result d)) : V.Scene where
  log := c.log ++ [⟨⟨r, c.state⟩, who, c.holder⟩]
  state := (V.serve r c.state).2
  holder := V.passed r who c.holder
  pending := c.pending.set who ⟨d, next (V.serve r c.state).1⟩

/-- What a pick leads to. -/
def turn (c : V.Scene) : Pick D → V.Scene
  | .begin d => c.begun d
  | .proceed who =>
    match c.pending[who]? with
    | some ⟨d, .ask r next⟩ => if V.admits r c.holder then c.stepped who d r next else c
    | _ => c

/-- What all picks lead to, in their order. -/
def run (c : V.Scene) (picks : List (Pick D)) : V.Scene :=
  picks.foldl turn c

/-! ## Invariants of scenes -/

variable {c : V.Scene} {picks : List (Pick D)}

/-- What a pick may lead to: a deed begins, a step is taken, or nothing happens. -/
theorem turn_cases (c : V.Scene) (pick : Pick D) :
    (∃ d, pick = .begin d ∧ c.turn pick = c.begun d) ∨
    (∃ who d r next, pick = .proceed who ∧ c.pending[who]? = some ⟨d, .ask r next⟩ ∧
      V.admits r c.holder = true ∧ c.turn pick = c.stepped who d r next) ∨
    c.turn pick = c := by
  cases pick with
  | begin d => exact Or.inl ⟨d, rfl, rfl⟩
  | proceed who =>
    unfold turn
    dsimp only
    split
    · next d r next hwho =>
      split
      · next hfree => exact Or.inr (Or.inl ⟨who, d, r, next, rfl, hwho, hfree, rfl⟩)
      · exact Or.inr (Or.inr rfl)
    · exact Or.inr (Or.inr rfl)

theorem run_invariant (inv : V.Scene → Prop)
    (hbegin : ∀ c d, .begin d ∈ picks → inv c → inv (c.begun d))
    (hstep : ∀ c who d r next, c.pending[who]? = some ⟨d, .ask r next⟩ →
      V.admits r c.holder = true → inv c → inv (c.stepped who d r next))
    (hc : inv c) : inv (c.run picks) := by
  refine List.foldlRecOn picks turn hc fun c hc pick hpick => ?_
  rcases c.turn_cases pick with ⟨d, rfl, heq⟩ | ⟨who, d, r, next, -, hwho, hfree, heq⟩ | heq <;> rw [heq]
  · exact hbegin c d hpick hc
  · exact hstep c who d r next hwho hfree hc
  · exact hc

/-! ## What a deed has done -/

theorem own_stepped (c : V.Scene) (who other : Nat) (d : D) (r : I.Request)
    (next : I.Answer r → Program I (V.Result d)) :
    (c.stepped who d r next).own other =
      c.own other ++ if who = other then [⟨⟨r, c.state⟩, who, c.holder⟩] else [] := by
  unfold own stepped
  rw [List.filter_append]
  by_cases h : who = other <;> simp [h]

theorem counted_stepped {c : V.Scene} (hc : c.Counted) {who : Nat} {d : D} {r : I.Request}
    {next : I.Answer r → Program I (V.Result d)} (hwho : c.pending[who]? = some ⟨d, .ask r next⟩) :
    (c.stepped who d r next).Counted := by
  intro x hx
  simp only [stepped, List.length_set]
  rcases List.mem_append.1 hx with hx | hx
  · exact hc x hx
  · obtain rfl := List.mem_singleton.1 hx
    exact pending_lt hwho

/-- What is known of a deed under way after a step: it is the one that took it, or it is as before. -/
theorem pending_stepped {c : V.Scene} {who other : Nat} {d : D} {r : I.Request}
    {next : I.Answer r → Program I (V.Result d)} {q : V.Pending}
    (hwho : c.pending[who]? = some ⟨d, .ask r next⟩)
    (h : (c.stepped who d r next).pending[other]? = some q) :
    (other = who ∧ q = ⟨d, next (V.serve r c.state).1⟩) ∨ (other ≠ who ∧ c.pending[other]? = some q) :=
  getElem?_of_set (pending_lt hwho) h

/-- The program of a deed, in the state in which it began, has led through the deed's own steps. -/
def Led (inv : σ → Prop) (c : V.Scene) : Prop :=
  ∀ who d rest, c.pending[who]? = some ⟨d, rest⟩ →
    ∃ s, inv s ∧ (V.program d s).Leads ((c.own who).map Step.exchanged) rest

theorem leads_run (inv : σ → Prop) (heffect : ∀ d s, .begin d ∈ picks → inv s → inv (V.effect d s))
    (hserve : ∀ r s, inv s → inv (V.serve r s).2) {s : σ} (hs : inv s) :
    ((start V s).run picks).Led inv := by
  suffices hall : ((start V s).run picks).Counted ∧ inv ((start V s).run picks).state ∧
      ((start V s).run picks).Led inv from hall.2.2
  refine run_invariant (fun c => c.Counted ∧ inv c.state ∧ c.Led inv) ?_ ?_
    ⟨nofun, hs, fun _ _ _ h => by cases h⟩
  · rintro c d hd ⟨hcount, hstate, hled⟩
    refine ⟨counted_begun hcount d, heffect d _ hd hstate, fun other d' rest hother => ?_⟩
    rcases pending_begun hother with ⟨rfl, hq⟩ | hold
    · cases hq
      refine ⟨c.state, hstate, ?_⟩
      have hown : (c.begun d).own c.pending.length = [] := own_eq_nil hcount (Nat.le_refl _)
      rw [hown]
      exact .nil _
    · exact hled other d' rest hold
  · rintro c who d r next hwho hfree ⟨hcount, hstate, hled⟩
    refine ⟨counted_stepped hcount hwho, hserve r _ hstate, fun other d' rest hother => ?_⟩
    rw [own_stepped]
    rcases pending_stepped hwho hother with ⟨rfl, hq⟩ | ⟨hne, hold⟩
    · cases hq
      obtain ⟨s, hs, hlead⟩ := hled other d _ hwho
      refine ⟨s, hs, ?_⟩
      rw [if_pos rfl, List.map_append]
      exact hlead.snoc _
    · rw [if_neg (Ne.symm hne), List.append_nil]
      exact hled other d' rest hold

/-! ## Stances -/

/-- Every deed under way has a stance, from which the rest of it follows the diagram. -/
structure Stands {S : Type} (may : S → Exchange I → S → Prop)
    (ends : (d : D) → S → V.Result d → Prop) (stances : List S) (c : V.Scene) : Prop where
  length : stances.length = c.pending.length
  follows : ∀ (who : Nat) (s : S) (q : V.Pending), stances[who]? = some s → c.pending[who]? = some q →
    q.rest.Follows may (ends q.deed) s

section
variable {S : Type} {may : S → Exchange I → S → Prop} {ends : (d : D) → S → V.Result d → Prop}
  {stances : List S} {c : V.Scene}

omit [DecidableEq L] in
theorem Stands.begun (h : Stands may ends stances c) {d : D} {s : S}
    (hs : (V.program d c.state).Follows may (ends d) s) :
    Stands may ends (stances ++ [s]) (c.begun d) := by
  refine ⟨by simp [Scene.begun, h.length], fun other s' q hs' hq => ?_⟩
  rcases pending_begun hq with ⟨rfl, rfl⟩ | hold
  · rw [← h.length, List.getElem?_concat_length] at hs'
    obtain rfl := Option.some.inj hs'
    exact hs
  · rw [List.getElem?_append_left (h.length.symm ▸ pending_lt hold)] at hs'
    exact h.follows other s' q hs' hold

/-- With the answer to its step a deed goes on to a stance that the diagram allows. -/
theorem Stands.stepped (h : Stands may ends stances c) {who : Nat} {d : D} {r : I.Request}
    {next : I.Answer r → Program I (V.Result d)} (hwho : c.pending[who]? = some ⟨d, .ask r next⟩) :
    ∃ s s', stances[who]? = some s ∧ may s ⟨r, (V.serve r c.state).1⟩ s' ∧
      Stands may ends (stances.set who s') (c.stepped who d r next) := by
  have hlt : who < stances.length := h.length.symm ▸ pending_lt hwho
  have hs : stances[who]? = some stances[who] := List.getElem?_eq_getElem hlt
  obtain ⟨s', hmay, hnext⟩ := h.follows who _ _ hs hwho (V.serve r c.state).1
  refine ⟨_, s', hs, hmay, by simp [Scene.stepped, h.length], fun other t q ht hq => ?_⟩
  rcases pending_stepped hwho hq, getElem?_of_set hlt ht with ⟨⟨rfl, rfl⟩ | ⟨hne, hold⟩, ⟨heq, rfl⟩ | ⟨hne', ht⟩⟩
  · exact hnext
  · exact absurd rfl hne'
  · exact absurd heq hne
  · exact h.follows other t q ht hold

end

/-- An invariant of the scene and of all stances is shown for a deed that takes its first stance, and for a
step from one stance to the next. -/
theorem run_stands {S : Type} {may : S → Exchange I → S → Prop}
    {ends : (d : D) → S → V.Result d → Prop} (inv : List S → V.Scene → Prop)
    (hbegin : ∀ stances c d, .begin d ∈ picks → stances.length = c.pending.length → inv stances c →
      ∃ s, (V.program d c.state).Follows may (ends d) s ∧ inv (stances ++ [s]) (c.begun d))
    (hstep : ∀ stances c who d r next s s', stances.length = c.pending.length →
      c.pending[who]? = some ⟨d, .ask r next⟩ → stances[who]? = some s →
      V.admits r c.holder = true → may s ⟨r, (V.serve r c.state).1⟩ s' → inv stances c →
      inv (stances.set who s') (c.stepped who d r next))
    {s : σ} (hs : inv [] (start V s)) :
    ∃ stances, inv stances ((start V s).run picks) ∧ Stands may ends stances ((start V s).run picks) := by
  refine run_invariant (fun c => ∃ stances, inv stances c ∧ Stands may ends stances c) ?_ ?_
    ⟨[], hs, rfl, fun _ _ _ h => by cases h⟩
  · rintro c d hd ⟨stances, hinv, hstands⟩
    obtain ⟨s, hfollows, hinv'⟩ := hbegin stances c d hd hstands.length hinv
    exact ⟨stances ++ [s], hinv', hstands.begun hfollows⟩
  · rintro c who d r next hwho hfree ⟨stances, hinv, hstands⟩
    obtain ⟨s, s', hstance, hmay, hstands'⟩ := hstands.stepped hwho
    exact ⟨_, hstep stances c who d r next s s' hstands.length hwho hstance hfree hmay hinv, hstands'⟩

/-! ## Deeds that rely on their answers -/

/-- Where every allowed step keeps an invariant of the state, and is answered fairly at honest moments, the
invariant holds as long as all moments were honest. -/
theorem run_relies {fair : Exchange I → Prop} {allowed : I.Request → Prop} {honest : Moment I σ → Prop}
    {inv : σ → Prop}
    (hbegin : ∀ d s, .begin d ∈ picks → inv s →
      inv (V.effect d s) ∧ (V.program d s).Relies fair allowed fun _ => True)
    (hserve : ∀ m : Moment I σ, allowed m.request → inv m.state → honest m →
      fair (m.exchange V.serve) ∧ inv (V.serve m.request m.state).2)
    {s : σ} (hs : inv s) (hhonest : ∀ x ∈ ((start V s).run picks).log, honest x.toMoment) :
    inv ((start V s).run picks).state := by
  suffices hall : (∀ x ∈ ((start V s).run picks).log, honest x.toMoment) →
      inv ((start V s).run picks).state ∧ ∀ q ∈ ((start V s).run picks).pending,
        q.rest.Relies fair allowed fun _ => True from (hall hhonest).1
  refine run_invariant (fun c : V.Scene => (∀ x ∈ c.log, honest x.toMoment) →
    inv c.state ∧ ∀ q ∈ c.pending, q.rest.Relies fair allowed fun _ => True) ?_ ?_
    fun _ => ⟨hs, fun q hq => absurd hq List.not_mem_nil⟩
  · intro c d hd hc hlog
    obtain ⟨hinv, hrelies⟩ := hc hlog
    obtain ⟨hinv', hprogram⟩ := hbegin d c.state hd hinv
    exact ⟨hinv', List.forall_mem_append.2 ⟨hrelies, List.forall_mem_singleton.2 hprogram⟩⟩
  · intro c who d r next hwho _ hc hlog
    obtain ⟨hlog, hlast⟩ := List.forall_mem_append.1 hlog
    obtain ⟨hinv, hrelies⟩ := hc hlog
    obtain ⟨hallowed, hnext⟩ := hrelies _ (List.mem_of_getElem? hwho)
    obtain ⟨hfair, hinv'⟩ := hserve ⟨r, c.state⟩ hallowed hinv (hlast _ List.mem_cons_self)
    refine ⟨hinv', fun q hq => ?_⟩
    rcases List.mem_or_eq_of_mem_set hq with hold | rfl
    · exact hrelies q hold
    · exact hnext _ hfair

end Scene
end Venue
end Jukebox
