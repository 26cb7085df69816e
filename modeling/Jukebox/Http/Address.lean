import Jukebox.Text.Decimal
import Jukebox.Text.Hex

/-!
Addresses on which a server listens: an address of four or of sixteen bytes, and a port.
-/

namespace Jukebox.Http

/-- The address of a host. -/
inductive Host where
  | short (a b c d : Nat)
  /-- Eight groups of 16 bits, and the number of the network that they are on. -/
  | long (groups : List Nat) (scope : Nat)
deriving DecidableEq, Repr

/-- The address of a server. -/
structure Address where
  host : Host
  port : Nat
deriving DecidableEq, Repr

namespace Address

/-! ## Reading -/

/-- Reads a number of at most so many digits of a base. -/
def number? (base maxDigits : Nat) (cs : List Char) : Option (Nat × List Char) :=
  let isDigit (c : Char) : Bool := (Text.Hex.value? c).any (· < base)
  let digits := cs.takeWhile isDigit
  if digits.isEmpty || maxDigits < digits.length then none
  else
    some (digits.foldl (fun n c => base * n + (Text.Hex.value? c).getD 0) 0, cs.drop digits.length)

/-- Reads a byte in decimal digits without zeros in front. -/
def byte? (cs : List Char) : Option (Nat × List Char) := do
  let (n, r) ← number? 10 3 cs
  if n < 256 ∧ ¬(cs.head? = some '0' ∧ r.length + 1 < cs.length) then some (n, r) else none

/-- Reads one character. -/
def mark? (c : Char) : List Char → Option (List Char)
  | a :: r => if a = c then some r else none
  | [] => none

/-- Reads four bytes between points. -/
def bytes? (cs : List Char) : Option ((Nat × Nat × Nat × Nat) × List Char) := do
  let (a, r) ← byte? cs
  let (b, r) ← byte? (← mark? '.' r)
  let (c, r) ← byte? (← mark? '.' r)
  let (d, r) ← byte? (← mark? '.' r)
  return ((a, b, c, d), r)

/--
Reads at most so many groups between colons, the last two of which may be written as four bytes, and
whether they were.
-/
def groups (first : Bool) : (limit : Nat) → List Char → List Nat × Bool × List Char
  | 0, cs => ([], false, cs)
  | limit + 1, cs =>
    match if first then some cs else mark? ':' cs with
    | none => ([], false, cs)
    | some r =>
      match if limit = 0 then none else bytes? r with
      | some ((a, b, c, d), r) => ([256 * a + b, 256 * c + d], true, r)
      | none =>
        match number? 16 4 r with
        | none => ([], false, cs)
        | some (group, r) =>
          let (rest, asBytes, r) := groups false limit r
          (group :: rest, asBytes, r)

/-- Reads eight groups, for a row of which two colons may stand. -/
def eightGroups? (cs : List Char) : Option (List Nat × List Char) :=
  let (front, asBytes, r) := groups true 8 cs
  if front.length = 8 then some (front, r)
  else if asBytes then none
  else
    match r with
    | ':' :: ':' :: r =>
      let (back, _, r) := groups true (7 - front.length) r
      some (front ++ List.replicate (8 - front.length - back.length) 0 ++ back, r)
    | _ => none

/-- Reads the number of a network behind a percent sign, if there is one. -/
def scope? : List Char → Option (Nat × List Char)
  | '%' :: r => do
    let (n, r) ← number? 10 r.length r
    if n < UInt32.size then some (n, r) else none
  | r => some (0, r)

/-- Reads the address of a host, which is in brackets if it is long. -/
def host? : List Char → Option (Host × List Char)
  | '[' :: r => do
    let (groups, r) ← eightGroups? r
    let (scope, r) ← scope? r
    return (.long groups scope, ← mark? ']' r)
  | r => (bytes? r).map fun ((a, b, c, d), r) => (.short a b c d, r)

/-- Reads the address of a server. -/
def parse? (text : String) : Option Address := do
  let (host, r) ← host? text.toList
  let r ← mark? ':' r
  let (port, r) ← number? 10 r.length r
  if port < UInt16.size ∧ r = [] then some ⟨host, port⟩ else none

/-! ## Printing -/

/-- Groups between colons. -/
def groupsText (groups : List Nat) : String :=
  ":".intercalate (groups.map fun g => String.ofList (Text.Hex.digits g))

/-- The length of the row of zeros at the start of some groups. -/
def zeros (groups : List Nat) : Nat :=
  (groups.takeWhile (· == 0)).length

/-- Where the first of the longest rows of zeros begins, and its length. -/
def longestRow (groups : List Nat) : Nat × Nat :=
  (List.range groups.length).foldl (fun best i =>
    let length := zeros (groups.drop i)
    if best.2 < length then (i, length) else best) (0, 0)

/-- Four bytes between points. -/
def bytesText (a b c d : Nat) : String :=
  ".".intercalate ([a, b, c, d].map fun n => String.ofList (Text.Decimal.digits n))

/-- Eight groups, the longest row of zeros left out. -/
def longText (groups : List Nat) : String :=
  match groups with
  | [0, 0, 0, 0, 0, 0xffff, g, h] => s!"::ffff:{bytesText (g / 256) (g % 256) (h / 256) (h % 256)}"
  | _ =>
    let (start, length) := longestRow groups
    if length < 2 then groupsText groups
    else s!"{groupsText (groups.take start)}::{groupsText (groups.drop (start + length))}"

/-- The text of an address. -/
def text (a : Address) : String :=
  let port := String.ofList (Text.Decimal.digits a.port)
  match a.host with
  | .short a b c d => s!"{bytesText a b c d}:{port}"
  | .long groups 0 => s!"[{longText groups}]:{port}"
  | .long groups scope => s!"[{longText groups}%{String.ofList (Text.Decimal.digits scope)}]:{port}"

end Address
end Jukebox.Http
