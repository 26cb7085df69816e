import Jukebox.Json

/-!
Reading records from JSON values.

A record is an object, whose members may stand in any order and among others, or an array of the
values of its fields in their order.  In an object a field may be missing, and none may occur twice.
-/

namespace Jukebox.Json

/-- The values of a member in an object. -/
def valuesOf (members : List (Option String × Json)) (name : String) : List Json :=
  members.filterMap fun (key, value) => if key = some name then some value else none

/-- The values of fields in an object: for each field its value, or nothing if it is missing. -/
def recordOfMembers (names : List String) (members : List (Option String × Json)) :
    Option (List (Option Json)) :=
  if members.all fun (key, _) => key.isSome then
    names.mapM fun name =>
      match valuesOf members name with
      | [] => some none
      | [value] => some (some value)
      | _ => none
  else none

/--
The values of fields in an array, which has all of them, save that fields at the end may be missing
behind the first `needed`.
-/
def recordOfItems (names : List String) (needed : Nat) (items : List Json) :
    Option (List (Option Json)) :=
  if needed ≤ items.length ∧ items.length ≤ names.length then
    some (items.map some ++ List.replicate (names.length - items.length) none)
  else none

/-- The values of the fields of a record. -/
def record (names : List String) (needed : Nat) : Json → Option (List (Option Json))
  | .object members => recordOfMembers names members
  | .array items => recordOfItems names needed items
  | _ => none

/-! ## Values of fields -/

/-- The value of a field that must not be missing. -/
def required {α : Type} (decode : Json → Option α) (value : Option Json) : Option α :=
  value.bind decode

/-- The value of a field that may be missing, which then is `default`. -/
def withDefault {α : Type} (default : α) (decode : Json → Option α) : Option Json → Option α
  | none => some default
  | some j => decode j

/-- A value, or nothing for null. -/
def nullable {α : Type} (decode : Json → Option α) : Json → Option (Option α)
  | .null => some none
  | j => (decode j).map some

/-- The value of a field that may be missing or null. -/
def optional {α : Type} (decode : Json → Option α) : Option Json → Option (Option α) :=
  withDefault none (nullable decode)

/-- A text. -/
def text? : Json → Option String
  | .text t => t
  | _ => none

/-- A truth value. -/
def bool? : Json → Option Bool
  | .bool b => some b
  | _ => none

/-- An integer within bounds. -/
def integer? (low high : Int) : Json → Option Int
  | .number (.integer n) => if low ≤ n ∧ n ≤ high then some n else none
  | _ => none

/-- A natural number of 64 bits. -/
def uint64? (j : Json) : Option UInt64 :=
  (integer? 0 0xffffffffffffffff j).map fun n => n.toNat.toUInt64

/-- A natural number of 8 bits. -/
def uint8? (j : Json) : Option UInt8 :=
  (integer? 0 0xff j).map fun n => n.toNat.toUInt8

/-- An integer of 64 bits. -/
def int64? : Json → Option Int :=
  integer? (-0x8000000000000000) 0x7fffffffffffffff

/-- An array of values. -/
def list? {α : Type} (decode : Json → Option α) : Json → Option (List α)
  | .array items => items.mapM decode
  | _ => none

/-- A word, which may also be written as an object with the word as its only key and no value. -/
def word? {α : Type} (ofName? : String → Option α) : Json → Option α
  | .text t => t.bind ofName?
  | .object [(key, .null)] => key.bind ofName?
  | _ => none

end Jukebox.Json
