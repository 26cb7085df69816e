import Jukebox.Text.Hex
import Jukebox.Text.Utf8

/-!
Percent-encoding, and the fields of forms and query strings that are written with it.
-/

namespace Jukebox.Text.Percent

/-- A byte as a percent sign and two hexadecimal digits. -/
def encodeByte (b : UInt8) : List Char :=
  ['%', Hex.capitalDigit (b.toNat / 16), Hex.capitalDigit (b.toNat % 16)]

/-- Encodes the characters for which `keep` does not hold. -/
def encode (keep : Char → Bool) (cs : List Char) : List Char :=
  cs.flatMap fun c => if keep c then [c] else (String.utf8EncodeChar c).flatMap encodeByte

/-- The bytes that an encoded text stands for; a percent sign without two digits stands for itself. -/
def decode : List UInt8 → List UInt8
  | [] => []
  | b :: rest =>
    if b = 0x25 then
      match rest with
      | h :: l :: after =>
        match Hex.value? (Char.ofNat h.toNat), Hex.value? (Char.ofNat l.toNat) with
        | some high, some low => (16 * high + low).toUInt8 :: decode after
        | _, _ => b :: decode (h :: l :: after)
      | rest => b :: decode rest
    else b :: decode rest

/-! ## Forms -/

/-- The character stands for itself in the field of a form. -/
def isFormSafe (c : Char) : Bool :=
  c.isAlphanum || c == '*' || c == '-' || c == '.' || c == '_'

/-- A text as a field of a form; a space becomes a plus sign. -/
def encodeField (s : String) : String :=
  String.ofList ((encode (fun c => isFormSafe c || c == ' ') s.toList).map fun c =>
    if c = ' ' then '+' else c)

/-- The text that a field of a form stands for. -/
def decodeField (cs : List Char) : String :=
  String.ofList (Utf8.decode (decode (Utf8.encode (cs.map fun c => if c = '+' then ' ' else c))))

/-- Names and values as a form. -/
def encodeForm (fields : List (String × String)) : String :=
  "&".intercalate (fields.map fun (name, value) => s!"{encodeField name}={encodeField value}")

/-- The parts of a text between occurrences of a character. -/
def splitAt (mark : Char) (cs : List Char) : List (List Char) :=
  cs.foldr (fun c parts =>
    if c = mark then [] :: parts
    else match parts with
      | part :: rest => (c :: part) :: rest
      | [] => [[c]]) [[]]

/-- The names and values of a form; a name may come without a value. -/
def decodeForm (text : String) : List (String × String) :=
  ((splitAt '&' text.toList).filter (!·.isEmpty)).map fun part =>
    (decodeField (part.takeWhile (· != '=')), decodeField ((part.dropWhile (· != '=')).drop 1))

end Jukebox.Text.Percent
