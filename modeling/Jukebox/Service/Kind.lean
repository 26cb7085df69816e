import Jukebox.Error

/-!
The kinds of playback service that can be configured.
-/

namespace Jukebox

/-- A kind of playback service. -/
inductive Service.Kind where
  | spotify
  /-- A player that is simulated within the process. -/
  | memory
deriving DecidableEq, Repr, Inhabited

/-- The word names no playback service. -/
def Error.notABackend (word : String) : Error :=
  ⟨.config, s!"Unknown playback backend '{word}'"⟩

namespace Service.Kind

/-- The word for a kind. -/
def name : Kind → String
  | .spotify => "spotify"
  | .memory => "memory"

/-- The kind that a word in small letters names. -/
def ofName? : String → Option Kind
  | "spotify" => some .spotify
  | "memory" => some .memory
  | _ => none

/-- Reads the word for a kind, in which capital letters of ASCII count as small ones. -/
def parse (text : String) : Except Error Kind :=
  let word := String.ofList (text.toList.map Char.toLower)
  match ofName? word with
  | some kind => .ok kind
  | none => .error (.notABackend word)

/-- The word for a kind names it. -/
@[simp]
theorem ofName?_name (kind : Kind) : ofName? kind.name = some kind := by
  cases kind <;> rfl

end Service.Kind
end Jukebox
