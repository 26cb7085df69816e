import Jukebox.Calendar
import Jukebox.Text.Decimal

/-!
Moments in Coordinated Universal Time, by the Gregorian calendar.

A `Timestamp` is a calendar date and a time of day down to the nanosecond; a second numbered 60 is a
leap second.  It is written in the style of RFC 3339 with as many groups of three fraction digits as
are needed (`Timestamp.text`).
-/

namespace Jukebox

/-- A moment. -/
structure Timestamp where
  date : Date
  hour : Fin 24
  minute : Fin 60
  /-- The second within the minute; 60 is a leap second. -/
  second : Fin 61
  nanosecond : Fin 1000000000
deriving DecidableEq, Repr

namespace Timestamp

/-- The first moment of 1970. -/
def epoch : Timestamp :=
  ⟨Date.epoch, ⟨0, by decide⟩, ⟨0, by decide⟩, ⟨0, by decide⟩, ⟨0, by decide⟩⟩

instance : Inhabited Timestamp :=
  ⟨epoch⟩

/-- The seconds since the first moment of the year 1, leap seconds left out. -/
def seconds (t : Timestamp) : Int :=
  86400 * t.date.number + 3600 * t.hour.val + 60 * t.minute.val + t.second.val

/-- The whole seconds from `start` until `t`, none if `t` is earlier. -/
def secondsSince (t start : Timestamp) : Nat :=
  (t.seconds - start.seconds).toNat

/-- The moment so many nanoseconds after the first one of 1970. -/
def ofUnixNanoseconds (nanoseconds : Nat) : Timestamp :=
  let seconds := nanoseconds / 1000000000
  ⟨Date.ofUnixDays (seconds / 86400), ⟨seconds / 3600 % 24, Nat.mod_lt _ (by decide)⟩,
    ⟨seconds / 60 % 60, Nat.mod_lt _ (by decide)⟩,
    ⟨seconds % 60, Nat.lt_succ_of_lt (Nat.mod_lt _ (by decide))⟩,
    ⟨nanoseconds % 1000000000, Nat.mod_lt _ (by decide)⟩⟩

/-- Moves a moment by a number of minutes that is less than a day. -/
def addMinutes (t : Timestamp) (minutes : Int) : Timestamp :=
  let total := 60 * (t.hour.val : Int) + t.minute.val + minutes
  let date := if total < 0 then t.date.previous else if total < 1440 then t.date else t.date.next
  let rest := (total % 1440).toNat
  { t with
    date := date
    hour := ⟨rest / 60 % 24, Nat.mod_lt _ (by decide)⟩
    minute := ⟨rest % 60, Nat.mod_lt _ (by decide)⟩ }

/-! ## Text -/

/-- A year has four digits, or a sign and at least four digits if that is not enough. -/
def yearText (year : Int) : List Char :=
  if 0 ≤ year ∧ year ≤ 9999 then Text.Decimal.padded 4 year.toNat
  else (if year < 0 then '-' else '+') :: Text.Decimal.padded 4 year.natAbs

/-- The fraction of a second: no digits, or as few groups of three as are needed. -/
def fractionText (nanosecond : Nat) : List Char :=
  if nanosecond = 0 then []
  else if nanosecond % 1000000 = 0 then '.' :: Text.Decimal.padded 3 (nanosecond / 1000000)
  else if nanosecond % 1000 = 0 then '.' :: Text.Decimal.padded 6 (nanosecond / 1000)
  else '.' :: Text.Decimal.padded 9 nanosecond

/-- The characters of a moment's text. -/
def chars (t : Timestamp) : List Char :=
  yearText t.date.year ++ '-' :: Text.Decimal.padded 2 t.date.month ++
    '-' :: Text.Decimal.padded 2 t.date.day ++ 'T' :: Text.Decimal.padded 2 t.hour.val ++
    ':' :: Text.Decimal.padded 2 t.minute.val ++ ':' :: Text.Decimal.padded 2 t.second.val ++
    fractionText t.nanosecond.val ++ ['Z']

/-- The text of a moment. -/
def text (t : Timestamp) : String :=
  String.ofList t.chars

end Timestamp
end Jukebox
