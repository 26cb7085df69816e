import Jukebox.Error

/-!
The two queues of a party: one that every guest may add to, and one for administrators, which is
played first.
-/

namespace Jukebox

/-- The text names neither queue. -/
def Error.notAQueue (text : String) : Error :=
  ⟨.invalidFormat, s!"queue type must either be 'admin' or 'normal', got '{text}'"⟩

namespace Queue

/-- Which of the two queues a track waits in. -/
inductive Kind where
  | normal
  | admin
deriving DecidableEq, Repr, Inhabited

namespace Kind

/-- The word for a queue in requests, answers and messages. -/
def name : Kind → String
  | .normal => "normal"
  | .admin => "admin"

/-- The queue that a word names. -/
def ofName? : String → Option Kind
  | "normal" => some .normal
  | "admin" => some .admin
  | _ => none

/-- Reads the word for a queue. -/
def parse (text : String) : Except Error Kind :=
  match ofName? text with
  | some kind => .ok kind
  | none => .error (.notAQueue text)

/-- The queues in the order in which they are searched and played. -/
def byPrecedence : List Kind :=
  [.admin, .normal]

/-- The word for a queue names it. -/
@[simp]
theorem ofName?_name (kind : Kind) : ofName? kind.name = some kind := by
  cases kind <;> rfl

end Kind
end Queue
end Jukebox
