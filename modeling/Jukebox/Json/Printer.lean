import Jukebox.Json
import Jukebox.Text.Hex

/-!
JSON text without blanks.

In texts the quotation mark, the backslash and control characters are escaped, five of the latter by
letters and the others by their code points in hexadecimal digits.
-/

namespace Jukebox.Json

/-- One character as it stands within quotation marks. -/
def escape (c : Char) : List Char :=
  match c with
  | '"' => ['\\', '"']
  | '\\' => ['\\', '\\']
  | '\x08' => ['\\', 'b']
  | '\x0c' => ['\\', 'f']
  | '\n' => ['\\', 'n']
  | '\r' => ['\\', 'r']
  | '\t' => ['\\', 't']
  | c =>
    if c.toNat < 32 then
      ['\\', 'u', '0', '0', Text.Hex.digit (c.toNat / 16), Text.Hex.digit (c.toNat % 16)]
    else [c]

/-- A text within quotation marks; half of a surrogate pair stands for what cannot be held. -/
def quote : Option String → List Char
  | some s => '"' :: (s.toList.flatMap escape ++ ['"'])
  | none => ['"', '\\', 'u', 'd', '8', '0', '0', '"']

/-- The digits of an integer, after a minus sign if it is negative. -/
def integerChars (n : Int) : List Char :=
  if n < 0 then '-' :: Text.Decimal.digits n.natAbs else Text.Decimal.digits n.natAbs

/-- The characters of a number. -/
def Number.chars : Number → List Char
  | .integer n => integerChars n
  | .decimal mantissa exponent => integerChars mantissa ++ 'e' :: integerChars exponent

mutual

/-- The characters of a value. -/
def chars : Json → List Char
  | .null => ['n', 'u', 'l', 'l']
  | .bool true => ['t', 'r', 'u', 'e']
  | .bool false => ['f', 'a', 'l', 's', 'e']
  | .number n => n.chars
  | .text t => quote t
  | .array [] => ['[', ']']
  | .array (item :: rest) => '[' :: (item.chars ++ charsOfItems rest)
  | .object [] => ['\x7b', '\x7d']
  | .object ((key, value) :: rest) => '\x7b' :: (quote key ++ ':' :: (value.chars ++ charsOfMembers rest))

/-- The characters of the further items of an array, up to its end. -/
def charsOfItems : List Json → List Char
  | [] => [']']
  | item :: rest => ',' :: (item.chars ++ charsOfItems rest)

/-- The characters of the further members of an object, up to its end. -/
def charsOfMembers : List (Option String × Json) → List Char
  | [] => ['\x7d']
  | (key, value) :: rest => ',' :: (quote key ++ ':' :: (value.chars ++ charsOfMembers rest))

end

/-- The text of a value. -/
def print (j : Json) : String :=
  String.ofList j.chars

end Jukebox.Json
