import Jukebox.Json
import Jukebox.Text.Hex

/-!
Reading JSON text.

Blanks are spaces, tabs, line feeds and carriage returns.  Numbers have no needless zeros in front,
and control characters do not stand in texts unescaped.
-/

namespace Jukebox.Json

/-- The character may stand between the parts of a JSON text. -/
def isBlank (c : Char) : Bool :=
  c == ' ' || c == '\t' || c == '\n' || c == '\r'

/-- The text without the blanks at its start. -/
def skip (cs : List Char) : List Char :=
  cs.dropWhile isBlank

/-! ## Texts -/

/-- The value of four hexadecimal digits. -/
def unit? (a b c d : Char) : Option Nat := do
  let high := 16 * (← Text.Hex.value? a) + (← Text.Hex.value? b)
  let low := 16 * (← Text.Hex.value? c) + (← Text.Hex.value? d)
  return 256 * high + low

/-- The character that a letter after a backslash stands for. -/
def unescape? : Char → Option Char
  | '"' => some '"'
  | '\\' => some '\\'
  | '/' => some '/'
  | 'b' => some '\x08'
  | 'f' => some '\x0c'
  | 'n' => some '\n'
  | 'r' => some '\r'
  | 't' => some '\t'
  | _ => none

/-- The number is the first half of a surrogate pair. -/
def isHighSurrogate (n : Nat) : Bool :=
  0xD800 ≤ n && n < 0xDC00

/-- The number is the second half of a surrogate pair. -/
def isLowSurrogate (n : Nat) : Bool :=
  0xDC00 ≤ n && n < 0xE000

/-- One more character of a text whose last character stands first. -/
def push (c : Char) (read : Option (List Char)) : Option (List Char) :=
  read.map (c :: ·)

/--
Reads a text up to its closing quotation mark.  The characters read so far are `read`, the last of
them first; there are none if half of a surrogate pair was read.
-/
def textFrom (read : Option (List Char)) : List Char → Option (Option String × List Char)
  | '"' :: r => some (read.map fun cs => String.ofList cs.reverse, r)
  | '\\' :: 'u' :: a :: b :: c :: d :: '\\' :: 'u' :: e :: f :: g :: h :: r =>
    match unit? a b c d with
    | none => none
    | some n =>
      if isHighSurrogate n then
        match unit? e f g h with
        | none => none
        | some m =>
          if isLowSurrogate m then
            textFrom (push (Char.ofNat (0x10000 + (n - 0xD800) * 0x400 + (m - 0xDC00))) read) r
          else textFrom none ('\\' :: 'u' :: e :: f :: g :: h :: r)
      else if isLowSurrogate n then textFrom none ('\\' :: 'u' :: e :: f :: g :: h :: r)
      else textFrom (push (Char.ofNat n) read) ('\\' :: 'u' :: e :: f :: g :: h :: r)
  | '\\' :: 'u' :: a :: b :: c :: d :: r =>
    match unit? a b c d with
    | none => none
    | some n =>
      if isHighSurrogate n || isLowSurrogate n then textFrom none r
      else textFrom (push (Char.ofNat n) read) r
  | '\\' :: c :: r =>
    match unescape? c with
    | some c => textFrom (push c read) r
    | none => none
  | c :: r => if c.toNat < 32 then none else textFrom (push c read) r
  | [] => none

/-! ## Numbers -/

/-- Reads the digits of a natural number without needless zeros in front. -/
def natural? (cs : List Char) : Option (Nat × List Char) :=
  match Text.Decimal.span cs with
  | ([], _) => none
  | ('0' :: _ :: _, _) => none
  | (digits, r) => some (Text.Decimal.value digits, r)

/-- Reads the digits after a point, if there is one. -/
def fraction? (cs : List Char) : Option (List Char × List Char) :=
  match cs with
  | '.' :: r =>
    match Text.Decimal.span r with
    | ([], _) => none
    | (digits, r) => some (digits, r)
  | r => some ([], r)

/-- Reads an exponent, if there is one. -/
def exponent? (cs : List Char) : Option (Option Int × List Char) :=
  match cs with
  | 'e' :: r | 'E' :: r =>
    let (sign, r) : Int × List Char := match r with
      | '+' :: r => (1, r)
      | '-' :: r => (-1, r)
      | r => (1, r)
    match Text.Decimal.span r with
    | ([], _) => none
    | (digits, r) => some (some (sign * Text.Decimal.value digits), r)
  | r => some (none, r)

/-- Reads a number. -/
def number? (cs : List Char) : Option (Number × List Char) := do
  let (sign, r) : Int × List Char := match cs with
    | '-' :: r => (-1, r)
    | r => (1, r)
  let (whole, r) ← natural? r
  let (places, r) ← fraction? r
  let (exponent, r) ← exponent? r
  if places.isEmpty && exponent.isNone && !(sign == -1 && whole == 0) then
    return (.integer (sign * whole), r)
  else
    return (.decimal (sign * Text.Decimal.valueFrom whole places)
      (exponent.getD 0 - places.length), r)

/-! ## Values -/

mutual

/-- Reads a value; `fuel` bounds the length of what is read. -/
def valueFrom : (fuel : Nat) → List Char → Option (Json × List Char)
  | 0, _ => none
  | fuel + 1, cs =>
    match skip cs with
    | 'n' :: 'u' :: 'l' :: 'l' :: r => some (.null, r)
    | 't' :: 'r' :: 'u' :: 'e' :: r => some (.bool true, r)
    | 'f' :: 'a' :: 'l' :: 's' :: 'e' :: r => some (.bool false, r)
    | '"' :: r => (textFrom (some []) r).map fun (t, r) => (.text t, r)
    | '[' :: r =>
      match skip r with
      | ']' :: r => some (.array [], r)
      | r => (itemsFrom fuel r).map fun (items, r) => (.array items, r)
    | '\x7b' :: r =>
      match skip r with
      | '\x7d' :: r => some (.object [], r)
      | r => (membersFrom fuel r).map fun (members, r) => (.object members, r)
    | r => (number? r).map fun (n, r) => (.number n, r)

/-- Reads the items of an array up to its end. -/
def itemsFrom : (fuel : Nat) → List Char → Option (List Json × List Char)
  | 0, _ => none
  | fuel + 1, cs => do
    let (item, r) ← valueFrom fuel cs
    match skip r with
    | ']' :: r => some ([item], r)
    | ',' :: r => (itemsFrom fuel r).map fun (rest, r) => (item :: rest, r)
    | _ => none

/-- Reads the members of an object up to its end. -/
def membersFrom : (fuel : Nat) → List Char → Option (List (Option String × Json) × List Char)
  | 0, _ => none
  | fuel + 1, cs => do
    let (key, r) ← match skip cs with
      | '"' :: r => textFrom (some []) r
      | _ => none
    let (value, r) ← match skip r with
      | ':' :: r => valueFrom fuel r
      | _ => none
    match skip r with
    | '\x7d' :: r => some ([(key, value)], r)
    | ',' :: r => (membersFrom fuel r).map fun (rest, r) => ((key, value) :: rest, r)
    | _ => none

end

/-- Reads the value at the start of a text. -/
def readStart? (text : String) : Option (Json × List Char) :=
  valueFrom (2 * text.length + 2) text.toList

/-- Reads a text that holds one value and nothing else. -/
def read? (text : String) : Option Json :=
  match readStart? text with
  | some (j, r) => if (skip r).isEmpty then some j else none
  | none => none

end Jukebox.Json
