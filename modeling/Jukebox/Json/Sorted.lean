import Jukebox.Json.Record

/-!
JSON values with the members of their objects in the order of the keys.
-/

namespace Jukebox.Json

/-- The members in the order of their keys, and of those with the same key the last only. -/
def sortMembers (members : List (Option String × Json)) : List (Option String × Json) :=
  let keys := (members.filterMap (·.1)).eraseDups.mergeSort fun a b => decide (a ≤ b)
  keys.filterMap fun key => (valuesOf members key).getLast?.map fun value => (some key, value)

mutual

/-- The value with the members of all objects in it in order. -/
def sorted : Json → Json
  | .array items => .array (sortedItems items)
  | .object members => .object (sortMembers (sortedMembers members))
  | j => j

/-- The items, sorted within. -/
def sortedItems : List Json → List Json
  | [] => []
  | item :: rest => item.sorted :: sortedItems rest

/-- The members, sorted within. -/
def sortedMembers : List (Option String × Json) → List (Option String × Json)
  | [] => []
  | (key, value) :: rest => (key, value.sorted) :: sortedMembers rest

end

end Jukebox.Json
