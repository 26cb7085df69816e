/-!
What the program calls itself.
-/

namespace Jukebox.About

/-- The name of the program. -/
def name : String :=
  "partyq"

/-- The version of the program. -/
def version : String :=
  "0.1.0"

/-- What the program is for, in one line. -/
def purpose : String :=
  "Shared party queue backed by an external playback service"

end Jukebox.About
