import Jukebox.Text.Binary64

/-!
JSON values.

Numbers are kept exactly.  A text is kept unless it holds half of a surrogate pair, which no `String`
can hold; of such a text only that it was one is known.  The members of an object keep their order,
and a key may occur more than once.
-/

namespace Jukebox

/-- A JSON number: an integer, or a number written with a fraction, an exponent or as minus zero. -/
inductive Json.Number where
  | integer (n : Int)
  /-- The number `mantissa * 10 ^ exponent`. -/
  | decimal (mantissa exponent : Int)
deriving DecidableEq, Inhabited

/-- A JSON value. -/
inductive Json where
  | null
  | bool (b : Bool)
  | number (n : Json.Number)
  /-- A text; nothing, if it holds half of a surrogate pair. -/
  | text (t : Option String)
  | array (items : List Json)
  | object (members : List (Option String × Json))
deriving Inhabited

namespace Json

/-- A text. -/
def ofText (s : String) : Json :=
  .text (some s)

/-- A natural number. -/
def ofNat (n : Nat) : Json :=
  .number (.integer n)

/-- An object. -/
def ofMembers (members : List (String × Json)) : Json :=
  .object (members.map fun (key, value) => (some key, value))

/-- A value, or null if there is none. -/
def ofOption {α : Type} (f : α → Json) : Option α → Json
  | none => .null
  | some a => f a

/-! ## What floating-point readers accept -/

/-- The number rounds to infinity as a binary floating-point number of 64 bits. -/
def Number.overflows : Number → Bool
  | .integer n => Text.Binary64.overflows n.natAbs 0
  | .decimal mantissa exponent => Text.Binary64.overflows mantissa.natAbs exponent

mutual

/-- How deep arrays and objects are nested. -/
def depth : Json → Nat
  | .array items => depthOfItems items + 1
  | .object members => depthOfMembers members + 1
  | _ => 0

/-- The depth of the deepest item. -/
def depthOfItems : List Json → Nat
  | [] => 0
  | item :: rest => max item.depth (depthOfItems rest)

/-- The depth of the deepest member. -/
def depthOfMembers : List (Option String × Json) → Nat
  | [] => 0
  | (_, value) :: rest => max value.depth (depthOfMembers rest)

end

mutual

/-- Every text within the value can be held and every number is finite. -/
def isSound : Json → Bool
  | .number n => !n.overflows
  | .text t => t.isSome
  | .array items => itemsSound items
  | .object members => membersSound members
  | _ => true

/-- Every item is sound. -/
def itemsSound : List Json → Bool
  | [] => true
  | item :: rest => item.isSound && itemsSound rest

/-- Every key and every member is sound. -/
def membersSound : List (Option String × Json) → Bool
  | [] => true
  | (key, value) :: rest => key.isSome && value.isSound && membersSound rest

end

end Json
end Jukebox
