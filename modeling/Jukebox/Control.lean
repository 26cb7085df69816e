import Jukebox.Error

/-!
What a guest may ask of the player.
-/

namespace Jukebox

/-- The text names no player action. -/
def Error.notAPlayerAction (text : String) : Error :=
  ⟨.invalidFormat, s!"'{text}' is not a valid player action"⟩

/-- A player action. -/
inductive Control where
  | play
  | pause
  | stop
  | skip
  | volumeUp
  | volumeDown
deriving DecidableEq, Repr, Inhabited

namespace Control

/-- The word for an action. -/
def name : Control → String
  | .play => "play"
  | .pause => "pause"
  | .stop => "stop"
  | .skip => "skip"
  | .volumeUp => "volume_up"
  | .volumeDown => "volume_down"

/-- The action that a word names. -/
def ofName? : String → Option Control
  | "play" => some .play
  | "pause" => some .pause
  | "stop" => some .stop
  | "skip" => some .skip
  | "volume_up" => some .volumeUp
  | "volume_down" => some .volumeDown
  | _ => none

/-- Reads the word for an action. -/
def parse (text : String) : Except Error Control :=
  match ofName? text with
  | some action => .ok action
  | none => .error (.notAPlayerAction text)

/-- The word for an action names it. -/
@[simp]
theorem ofName?_name (action : Control) : ofName? action.name = some action := by
  cases action <;> rfl

end Control
end Jukebox
