import Jukebox.Text.Hex
import Jukebox.Text.PrintTable

/-!
Texts in quotation marks, as they are shown to people who look for mistakes.

Quotation marks, backslashes and five control characters are written with a backslash, and every
character without an appearance of its own by its code point.
-/

namespace Jukebox.Text.Quoted

/-- The character has an appearance of its own. -/
def isVisible (c : Char) : Bool :=
  if c.toNat < 0x80 then 0x20 ≤ c.toNat && c.toNat < 0x7f
  else !PrintTable.invisible.any fun (first, last) => first ≤ c.toNat && c.toNat ≤ last

/-- A character as it is written between quotation marks. -/
def escape (c : Char) : List Char :=
  match c with
  | '\x00' => ['\\', '0']
  | '\t' => ['\\', 't']
  | '\n' => ['\\', 'n']
  | '\r' => ['\\', 'r']
  | '"' => ['\\', '"']
  | '\\' => ['\\', '\\']
  | c => if isVisible c then [c] else ['\\', 'u', '\x7b'] ++ Hex.digits c.toNat ++ ['\x7d']

/-- A text in quotation marks. -/
def quote (s : String) : String :=
  String.ofList ('"' :: (s.toList.flatMap escape ++ ['"']))

end Jukebox.Text.Quoted
