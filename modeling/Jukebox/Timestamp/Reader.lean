import Jukebox.Text.Blank
import Jukebox.Timestamp

/-!
Reading the text of a moment.

The form is that of RFC 3339 with some freedom: white space may surround each number and mark, numbers
may have fewer digits, a year may have a sign and then any number of digits, the letters `T` and `Z`
may be small, a space may stand for `T` and `UTC` for `Z`, and between the hours and the minutes of an
offset there may be any colons and white space.
-/

namespace Jukebox.Timestamp

/-- Reads a number of one to `width` digits after white space. -/
def number? (width : Nat) (cs : List Char) : Option (Nat × List Char) :=
  let cs := Text.dropBlanks cs
  let taken := (cs.take width).takeWhile Char.isDigit
  if taken.isEmpty then none
  else some (Text.Decimal.value taken, cs.drop taken.length)

/-- Reads a year: up to four digits, or a sign and any number of digits. -/
def year? (cs : List Char) : Option (Int × List Char) :=
  match Text.dropBlanks cs with
  | '-' :: r => signed (-1) r
  | '+' :: r => signed 1 r
  | r => (number? 4 r).map fun (n, rest) => ((n : Int), rest)
where
  /-- Reads the digits after a sign. -/
  signed (sign : Int) (r : List Char) : Option (Int × List Char) :=
    let (taken, rest) := Text.Decimal.span r
    if taken.isEmpty then none else some (sign * Text.Decimal.value taken, rest)

/-- Reads a mark after white space. -/
def mark? (c : Char) (cs : List Char) : Option (List Char) :=
  match Text.dropBlanks cs with
  | d :: r => if d == c then some r else none
  | [] => none

/-- Reads the fraction of a second, if there is one; digits after the ninth do not count. -/
def fraction? (cs : List Char) : Option (Nat × List Char) :=
  match cs with
  | '.' :: r =>
    let (taken, rest) := Text.Decimal.span r
    let kept := taken.take 9
    if taken.isEmpty then none
    else some (Text.Decimal.value kept * Nat.pow 10 (9 - kept.length), rest)
  | r => some (0, r)

/-- Reads two digits. -/
def twoDigits? : List Char → Option (Nat × List Char)
  | a :: b :: r => if a.isDigit && b.isDigit then some (Text.Decimal.value [a, b], r) else none
  | _ => none

/-- Reads the offset from Coordinated Universal Time, in minutes. -/
def offset? (cs : List Char) : Option (Int × List Char) :=
  match Text.dropBlanks cs with
  | 'Z' :: r | 'z' :: r => some (0, r)
  | '+' :: r => amount 1 r
  | '-' :: r | '−' :: r => amount (-1) r
  | a :: b :: c :: r =>
    if [a, b, c].map Char.toUpper = ['U', 'T', 'C'] then some (0, r) else none
  | _ => none
where
  /-- Reads hours and minutes after a sign; together they are less than a day. -/
  amount (sign : Int) (r : List Char) : Option (Int × List Char) := do
    let (hours, r) ← twoDigits? r
    let (minutes, r) ← twoDigits? (r.dropWhile fun c => c == ':' || Text.isBlank c)
    if minutes < 60 ∧ hours < 24 then some (sign * (60 * hours + minutes), r) else none

/-- The years that dates may have. -/
def yearInRange (year : Int) : Bool :=
  -262143 ≤ year && year ≤ 262142

/-- Reads a calendar date. -/
def date? (cs : List Char) : Option (Date × List Char) := do
  let (year, r) ← year? cs
  let (month, r) ← mark? '-' r >>= number? 2
  let (day, r) ← mark? '-' r >>= number? 2
  let date ← Date.ofNumbers? year month day
  if yearInRange year then some (date, r) else none

/-- Reads a time of day. -/
def time? (date : Date) (cs : List Char) : Option (Timestamp × List Char) := do
  let (hour, r) ← number? 2 cs
  let (minute, r) ← mark? ':' r >>= number? 2
  let (second, r) ← mark? ':' r >>= number? 2
  let (nanosecond, r) ← fraction? r
  if h : hour < 24 ∧ minute < 60 ∧ second < 61 ∧ nanosecond < 1000000000 then
    some (⟨date, ⟨hour, h.1⟩, ⟨minute, h.2.1⟩, ⟨second, h.2.2.1⟩, ⟨nanosecond, h.2.2.2⟩⟩, r)
  else none

/-- Reads the characters of a moment, which may be given at any offset. -/
def ofChars? (cs : List Char) : Option Timestamp := do
  let (date, r) ← date? cs
  let r ← match r with
    | 'T' :: r | 't' :: r | ' ' :: r => some r
    | _ => none
  let (local_, r) ← time? date r
  let (offset, r) ← offset? r
  let t := local_.addMinutes (-offset)
  if (Text.dropBlanks r).isEmpty && yearInRange t.date.year then some t else none

/-- Reads the text of a moment. -/
def ofText? (text : String) : Option Timestamp :=
  ofChars? text.toList

end Jukebox.Timestamp
