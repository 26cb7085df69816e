/-!
Programs that ask questions.

A `Program I α` computes an `α` and may ask questions of an `Interface` on the way: it is either done,
or it asks one question and goes on with the answer.  What a program does is fixed by the questions
alone, so one definition serves a run to the end (`Program.run`), a run in which programs take turns,
and a proof about every possible answer.

Main statements: programs form a lawful monad, and running one is running its parts one after the
other (`Program.run_bind`).
-/

namespace Jukebox

/-- The questions that a program may ask, and what an answer to each of them is. -/
structure Interface where
  /-- A question. -/
  Request : Type
  /-- What is answered to a question. -/
  Answer : Request → Type

/-- A computation of an `α` that may ask the questions of `I`. -/
inductive Program (I : Interface) (α : Type) where
  /-- The computation is over. -/
  | done (a : α)
  /-- The computation asks `r` and goes on with what is answered. -/
  | ask (r : I.Request) (next : I.Answer r → Program I α)

namespace Program

variable {I J : Interface} {α β σ : Type}

/-- The first program, and then the one that its result selects. -/
def bind : Program I α → (α → Program I β) → Program I β
  | .done a, f => f a
  | .ask r next, f => .ask r fun x => (next x).bind f

instance : Monad (Program I) where
  pure := .done
  bind := bind

/-- The program that asks one question and ends with its answer. -/
def request (r : I.Request) : Program I (I.Answer r) :=
  .ask r .done

theorem bind_done (p : Program I α) : p.bind .done = p := by
  induction p with
  | done a => rfl
  | ask r next ih => simp [bind, ih]

theorem bind_assoc {γ : Type} (p : Program I α) (f : α → Program I β) (g : β → Program I γ) :
    (p.bind f).bind g = p.bind fun a => (f a).bind g := by
  induction p with
  | done a => rfl
  | ask r next ih => simp [bind, ih]

instance : LawfulMonad (Program I) :=
  LawfulMonad.mk' (Program I) bind_done (fun _ _ => rfl) bind_assoc

/-! ## Running -/

/-- Runs a program to its end; `serve` answers each question and may change the state. -/
def run (serve : (r : I.Request) → σ → I.Answer r × σ) : Program I α → σ → α × σ
  | .done a, s => (a, s)
  | .ask r next, s => (next (serve r s).1).run serve (serve r s).2

@[simp]
theorem run_done (serve : (r : I.Request) → σ → I.Answer r × σ) (a : α) (s : σ) :
    (done a : Program I α).run serve s = (a, s) := rfl

@[simp]
theorem run_pure (serve : (r : I.Request) → σ → I.Answer r × σ) (a : α) (s : σ) :
    (pure a : Program I α).run serve s = (a, s) := rfl

@[simp]
theorem run_ask (serve : (r : I.Request) → σ → I.Answer r × σ) (r : I.Request)
    (next : I.Answer r → Program I α) (s : σ) :
    (ask r next).run serve s = (next (serve r s).1).run serve (serve r s).2 := rfl

@[simp]
theorem run_request (serve : (r : I.Request) → σ → I.Answer r × σ) (r : I.Request) (s : σ) :
    (request r).run serve s = serve r s := rfl

@[simp]
theorem run_bind (serve : (r : I.Request) → σ → I.Answer r × σ) (p : Program I α)
    (f : α → Program I β) (s : σ) :
    (p >>= f).run serve s = (f (p.run serve s).1).run serve (p.run serve s).2 := by
  induction p generalizing s with
  | done a => rfl
  | ask r next ih => exact ih (serve r s).1 (serve r s).2

/-! ## Changing the interface -/

/-- Replaces each question by a program over another interface. -/
def interpret (f : (r : I.Request) → Program J (I.Answer r)) : Program I α → Program J α
  | .done a => .done a
  | .ask r next => (f r).bind fun x => (next x).interpret f

end Program
end Jukebox
