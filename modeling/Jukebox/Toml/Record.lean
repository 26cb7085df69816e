import Jukebox.Toml

/-!
Reading records from TOML values.

A record is a table, in which fields may be missing and other keys are passed over, or an array of the
values of its first fields.  A date or a time in its place counts as a record without fields.
-/

namespace Jukebox.Toml

/-- The values of the fields of a record: for each field its value, or nothing if it is missing. -/
def record? (names : List String) : Toml → Option (List (Option Toml))
  | .table _ entries => some (names.map fun name => entries.lookup name)
  | .array items | .tables items => some ((List.range names.length).map fun i => items[i]?)
  | .moment _ => some (names.map fun _ => none)
  | _ => none

/-- The value of a field, which is `default` if it is missing. -/
def withDefault {α : Type} (default : α) (decode : Toml → Option α) : Option Toml → Option α
  | none => some default
  | some value => decode value

/-- A text. -/
def asText? : Toml → Option String
  | .text s => some s
  | _ => none

/-- A natural number below a bound. -/
def asNat? (bound : Nat) : Toml → Option Nat
  | .integer n => if 0 ≤ n ∧ n < bound then some n.toNat else none
  | _ => none

/-- There is nothing in the value. -/
def isEmpty : Toml → Bool
  | .array [] | .tables [] | .table _ [] => true
  | _ => false

/-- A word, which may also be written as the only key of a table, with nothing under it. -/
def asWord? {α : Type} (ofName? : String → Option α) : Toml → Option α
  | .text s => ofName? s
  | .table _ [(key, value)] => if value.isEmpty then ofName? key else none
  | _ => none

end Jukebox.Toml
