/-!
The log: what a process tells about itself.
-/

namespace Jukebox.Log

/-- How important a record is. -/
inductive Level where
  | error
  | warn
  | info
  | debug
  | trace
deriving DecidableEq, Repr, Inhabited

namespace Level

/-- The word for a level in a record. -/
def name : Level → String
  | .error => "ERROR"
  | .warn => "WARN"
  | .info => "INFO"
  | .debug => "DEBUG"
  | .trace => "TRACE"

/-- The place of a level in the order from the most important to the least. -/
def rank : Level → Nat
  | .error => 1
  | .warn => 2
  | .info => 3
  | .debug => 4
  | .trace => 5

end Level

/-- Something that is told about the process. -/
structure Record where
  /-- The part of the program that tells it. -/
  target : String
  level : Level
  text : String
deriving DecidableEq, Repr

/-- The filter that shows the records of the party down to a level; the level may be any text. -/
def filterText (level : String) : String :=
  s!"partyq_server={level},partyq_common={level},tower_http=info"

end Jukebox.Log
