import Jukebox.Gateway

/-!
Several gateway operations issued at the same time.

The operations take turns in the order in which they were issued.  A turn lasts until the operation
has made a call for which the service must be waited, or comes to a lock that another one holds, or
ends.
-/

namespace Jukebox.Gateway

/-- What operations under way share: the service, and for each lock who holds it. -/
structure Shared (σ : Type) where
  service : σ
  holder : Lock → Option Nat

/-- An operation and what is left of it. -/
structure Pending where
  operation : Operation
  rest : Program interface (Except Error operation.Result)

/-- An operation and how it ended. -/
structure Completed where
  operation : Operation
  result : Except Error operation.Result

namespace Shared

/-- Records who holds a lock. -/
def setHolder {σ : Type} (w : Shared σ) (lock : Lock) (who : Option Nat) : Shared σ :=
  { w with holder := fun l => if l = lock then who else w.holder l }

end Shared

/-- One turn of the operation number `who`. -/
def turn {σ α : Type} (backend : Backend σ) (now : Instant) (who : Nat) :
    Program interface α → Shared σ → Program interface α × Shared σ
  | .done a, w => (.done a, w)
  | .ask (.call c) next, w =>
    let (answer, service) := backend.serve now c w.service
    let w := { w with service := service }
    if backend.suspends service then (next answer, w) else turn backend now who (next answer) w
  | .ask (.acquire lock) next, w =>
    if (w.holder lock).isNone then turn backend now who (next ()) (w.setHolder lock (some who))
    else (.ask (.acquire lock) next, w)
  | .ask (.release lock) next, w => turn backend now who (next ()) (w.setHolder lock none)

/-- One turn of every operation in order, the first of them being number `who`. -/
def round {σ : Type} (backend : Backend σ) (now : Instant) (who : Nat) :
    List Pending → Shared σ → List Pending × Shared σ
  | [], w => ([], w)
  | ⟨operation, rest⟩ :: others, w =>
    let (rest, w) := turn backend now who rest w
    let (others, w) := round backend now (who + 1) others w
    (⟨operation, rest⟩ :: others, w)

/-- So many rounds. -/
def rounds {σ : Type} (backend : Backend σ) (now : Instant) :
    Nat → List Pending → Shared σ → List Pending × Shared σ
  | 0, pending, w => (pending, w)
  | n + 1, pending, w =>
    let (pending, w) := round backend now 0 pending w
    rounds backend now n pending w

/-- Runs what is left of each operation to its end, one after the other. -/
def complete {σ : Type} (backend : Backend σ) (now : Instant) :
    List Pending → σ → List Completed × σ
  | [], s => ([], s)
  | ⟨operation, rest⟩ :: others, s =>
    let (result, s) := rest.run (serve backend now) s
    let (others, s) := complete backend now others s
    (⟨operation, result⟩ :: others, s)

/-- An operation makes at most twelve calls, so it ends within so many turns with the locks it needs. -/
def turnsNeeded : Nat :=
  13

/-- Runs operations issued at the same time until all of them have ended. -/
def join {σ : Type} (backend : Backend σ) (now : Instant) (preferred : Option String)
    (operations : List Operation) (s : σ) : List Completed × σ :=
  let pending := operations.map fun op => (⟨op, (op.task preferred).run⟩ : Pending)
  let (pending, w) :=
    rounds backend now (turnsNeeded * operations.length) pending ⟨s, fun _ => none⟩
  complete backend now pending w.service

end Jukebox.Gateway
