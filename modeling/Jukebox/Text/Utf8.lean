/-!
The bytes of texts in UTF-8.

Decoding accepts any bytes: where a character breaks off or does not begin, the longest part that
could still have become one, and at least one byte, counts as the replacement character.
-/

namespace Jukebox.Text.Utf8

/-- The bytes of a text. -/
def encode (cs : List Char) : List UInt8 :=
  cs.flatMap String.utf8EncodeChar

/-- The character that stands for bytes that are no character. -/
def replacement : Char :=
  '\ufffd'

/-- Where a decoder is: between two characters, or within one. -/
inductive State where
  | between
  /-- Further bytes are due: so many, the next of them within bounds, after bits already read. -/
  | within (due : Nat) (low high : UInt8) (bits : Nat)

/-- What the first byte of a character leads to. -/
def first (b : UInt8) : List Char × State :=
  if b < 0x80 then ([Char.ofNat b.toNat], .between)
  else if 0xC2 ≤ b ∧ b ≤ 0xDF then ([], .within 1 0x80 0xBF (b.toNat - 0xC0))
  else if b = 0xE0 then ([], .within 2 0xA0 0xBF 0)
  else if b = 0xED then ([], .within 2 0x80 0x9F (b.toNat - 0xE0))
  else if 0xE1 ≤ b ∧ b ≤ 0xEF then ([], .within 2 0x80 0xBF (b.toNat - 0xE0))
  else if b = 0xF0 then ([], .within 3 0x90 0xBF 0)
  else if 0xF1 ≤ b ∧ b ≤ 0xF3 then ([], .within 3 0x80 0xBF (b.toNat - 0xF0))
  else if b = 0xF4 then ([], .within 3 0x80 0x8F (b.toNat - 0xF0))
  else ([replacement], .between)

/-- What one more byte leads to. -/
def step (s : State) (b : UInt8) : List Char × State :=
  match s with
  | .between => first b
  | .within due low high bits =>
    if low ≤ b ∧ b ≤ high then
      let bits := 64 * bits + (b.toNat - 0x80)
      if due ≤ 1 then ([Char.ofNat bits], .between) else ([], .within (due - 1) 0x80 0xBF bits)
    else
      let (chars, s) := first b
      (replacement :: chars, s)

/-- The characters of the bytes that follow. -/
def decodeFrom : State → List UInt8 → List Char
  | .between, [] => []
  | .within .., [] => [replacement]
  | s, b :: rest =>
    let (chars, s) := step s b
    chars ++ decodeFrom s rest

/-- The characters of some bytes. -/
def decode (bytes : List UInt8) : List Char :=
  decodeFrom .between bytes

end Jukebox.Text.Utf8
