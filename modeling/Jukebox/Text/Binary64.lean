import Jukebox.Text.Decimal

/-!
Decimal numbers that are too large for a binary floating-point number of 64 bits.
-/

namespace Jukebox.Text.Binary64

/-- Numbers of this size and above round to infinity. -/
def limit : Nat :=
  Nat.pow 2 1024 - Nat.pow 2 970

/-- The number `mantissa * 10 ^ exponent` rounds to infinity, perhaps a negative one. -/
def overflows (mantissa : Nat) (exponent : Int) : Bool :=
  if mantissa = 0 then false
  else if 0 ≤ exponent then 400 ≤ exponent || limit ≤ mantissa * Nat.pow 10 exponent.toNat
  else
    let places := exponent.natAbs
    if (Decimal.digits mantissa).length ≤ places then false
    else limit * Nat.pow 10 places ≤ mantissa

end Jukebox.Text.Binary64
