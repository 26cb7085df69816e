import Jukebox.Proofs.Trace

/-!
# Programs that cannot tell two states apart

Two states may be `alike` without being equal.  A program is `Indifferent` to the difference if its runs
from such states end with the same result, in states that are alike again, and if what can be `seen` of
their exchanges is the same.  They need not take the same steps: one run may ask more than the other, as
long as this is not seen.

Programs are indifferent if their parts are (`Indifferent.bind`).
-/

namespace Jukebox.Program

variable {I : Interface} {α β : Type} {σ : Type} {serve : (r : I.Request) → σ → I.Answer r × σ}
  {alike : σ → σ → Prop} {seen : Exchange I → Bool}

theorem moments_bind (p : Program I α) (f : α → Program I β) (s : σ) :
    (p >>= f).moments serve s =
      p.moments serve s ++ (f (p.run serve s).1).moments serve (p.run serve s).2 := by
  induction p generalizing s with
  | done a => rfl
  | ask r next ih => exact congrArg (_ :: ·) (ih (serve r s).1 (serve r s).2)

theorem trace_bind (p : Program I α) (f : α → Program I β) (s : σ) :
    (p >>= f).trace serve s =
      p.trace serve s ++ (f (p.run serve s).1).trace serve (p.run serve s).2 := by
  unfold trace
  rw [moments_bind, List.map_append]

/-- The runs of a program from two states look the same. -/
structure Matches (serve : (r : I.Request) → σ → I.Answer r × σ) (alike : σ → σ → Prop)
    (seen : Exchange I → Bool) (p : Program I α) (s s' : σ) : Prop where
  result : (p.run serve s').1 = (p.run serve s).1
  state : alike (p.run serve s).2 (p.run serve s').2
  trace : (p.trace serve s').filter seen = (p.trace serve s).filter seen

/-- The program cannot tell states apart that are alike. -/
def Indifferent (serve : (r : I.Request) → σ → I.Answer r × σ) (alike : σ → σ → Prop)
    (seen : Exchange I → Bool) (p : Program I α) : Prop :=
  ∀ s s', alike s s' → p.Matches serve alike seen s s'

theorem indifferent_pure (a : α) : (pure a : Program I α).Indifferent serve alike seen :=
  fun _ _ h => ⟨rfl, h, rfl⟩

/-- A single question that is answered in the same way. -/
theorem indifferent_request {r : I.Request}
    (h : ∀ s s', alike s s' → (serve r s').1 = (serve r s).1 ∧ alike (serve r s).2 (serve r s').2) :
    (request r).Indifferent serve alike seen := by
  intro s s' hs
  obtain ⟨hanswer, hstate⟩ := h s s' hs
  refine ⟨hanswer, hstate, ?_⟩
  show [⟨r, (serve r s').1⟩].filter seen = [⟨r, (serve r s).1⟩].filter seen
  rw [hanswer]

theorem Indifferent.bind {p : Program I α} {f : α → Program I β}
    (hp : p.Indifferent serve alike seen) (hf : ∀ a, (f a).Indifferent serve alike seen) :
    (p >>= f).Indifferent serve alike seen := by
  intro s s' hs
  have hfirst := hp s s' hs
  have hrest := hf (p.run serve s).1 _ _ hfirst.state
  have hresult : ((p >>= f).run serve s') =
      (f (p.run serve s).1).run serve (p.run serve s').2 := by
    rw [run_bind, hfirst.result]
  constructor
  · rw [hresult, run_bind]
    exact hrest.result
  · rw [hresult, run_bind]
    exact hrest.state
  · rw [trace_bind, trace_bind, List.filter_append, List.filter_append, hfirst.trace,
      hfirst.result, hrest.trace]

end Jukebox.Program
