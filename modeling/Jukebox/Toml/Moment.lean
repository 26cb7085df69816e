import Jukebox.Calendar
import Jukebox.Text.Decimal

/-!
Dates and times as TOML writes them: a date, a time, or both with or without an offset.
-/

namespace Jukebox.Toml

/-- Reads a number of two digits within bounds. -/
def twoDigits? (low high : Nat) : List Char → Option (Nat × List Char)
  | a :: b :: r =>
    if a.isDigit && b.isDigit then
      let n := Text.Decimal.value [a, b]
      if low ≤ n ∧ n ≤ high then some (n, r) else none
    else none
  | _ => none

/-- Reads one character. -/
def exactly? (c : Char) : List Char → Option (List Char)
  | a :: r => if a = c then some r else none
  | [] => none

/-- The text behind a date. -/
def date? : List Char → Option (List Char)
  | a :: b :: c :: d :: '-' :: r => do
    if [a, b, c, d].all Char.isDigit then
      let (month, r) ← twoDigits? 1 12 r
      let (day, r) ← twoDigits? 1 31 (← exactly? '-' r)
      if day ≤ daysInMonth (Text.Decimal.value [a, b, c, d]) month then some r else none
    else none
  | _ => none

/-- The text behind a fraction of a second, if there is one. -/
def secondFraction? : List Char → Option (List Char)
  | '.' :: r =>
    match Text.Decimal.span r with
    | ([], _) => none
    | (_, r) => some r
  | r => some r

/-- The text behind a time of day. -/
def time? (cs : List Char) : Option (List Char) := do
  let (_, r) ← twoDigits? 0 23 cs
  let (_, r) ← twoDigits? 0 59 (← exactly? ':' r)
  let (_, r) ← twoDigits? 0 60 (← exactly? ':' r)
  secondFraction? r

/-- The text behind an offset from universal time, if there is one. -/
def offset? : List Char → Option (List Char)
  | 'Z' :: r | 'z' :: r => some r
  | '+' :: r | '-' :: r => do
    let (_, r) ← twoDigits? 0 23 r
    let (_, r) ← twoDigits? 0 59 (← exactly? ':' r)
    return r
  | r => some r

/-- The text behind a date, a time, or both. -/
def moment? (cs : List Char) : Option (List Char) :=
  match date? cs with
  | none => time? cs
  | some r =>
    match r with
    | 'T' :: s | 't' :: s => ((time? s).bind offset?).getD r
    | ' ' :: s => ((time? s).bind offset?).getD r
    | r => r

end Jukebox.Toml
