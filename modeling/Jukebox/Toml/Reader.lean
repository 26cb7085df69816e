import Jukebox.Text.Binary64
import Jukebox.Text.Hex
import Jukebox.Toml
import Jukebox.Toml.Moment

/-!
Reading TOML documents.

Blanks are spaces and tabs, lines end with a line feed that may have a carriage return before it, and
comments go from a number sign to the end of their line.  Control characters stand nowhere else.
-/

namespace Jukebox.Toml

/-- Reads a part of a text and leaves the rest. -/
abbrev Reading (α : Type) :=
  List Char → Option (α × List Char)

/-- The character is a blank within a line. -/
def isBlank (c : Char) : Bool :=
  c == ' ' || c == '\t'

/-- The text without the blanks at its start. -/
def skipBlanks (cs : List Char) : List Char :=
  cs.dropWhile isBlank

/-- The character may stand in a comment. -/
def isPlain (c : Char) : Bool :=
  c == '\t' || (0x20 ≤ c.toNat && c.toNat != 0x7f)

/-- Reads the end of a line. -/
def lineEnd? : List Char → Option (List Char)
  | '\n' :: r => some r
  | '\r' :: '\n' :: r => some r
  | _ => none

/-- The text behind a comment, if it begins with one. -/
def skipComment : List Char → List Char
  | '#' :: r => r.dropWhile isPlain
  | r => r

/-- Reads the rest of a line that says nothing more. -/
def restOfLine? (cs : List Char) : Option (List Char) :=
  match skipComment (skipBlanks cs) with
  | [] => some []
  | r => lineEnd? r

/-- Skips blanks, line ends and comments with the ends of their lines; a comment may end the text. -/
def skipLines : (fuel : Nat) → List Char → Option (List Char)
  | 0, _ => none
  | fuel + 1, cs =>
    match skipBlanks cs with
    | '#' :: r =>
      match skipComment ('#' :: r) with
      | [] => some []
      | r => (lineEnd? r).bind (skipLines fuel)
    | '\n' :: r => skipLines fuel r
    | '\r' :: r => (lineEnd? ('\r' :: r)).bind (skipLines fuel)
    | r => some r

/-! ## Texts -/

/-- The value of hexadecimal digits. -/
def hexValue? (cs : List Char) : Option Nat :=
  cs.foldlM (fun n c => (Text.Hex.value? c).map (16 * n + ·)) 0

/-- The character with a code point, if there is one. -/
def character? (n : Nat) : Option Char :=
  if n.isValidChar then some (Char.ofNat n) else none

/-- Reads what stands behind a backslash for one character. -/
def escaped? : Reading Char
  | 'b' :: r => some ('\x08', r)
  | 't' :: r => some ('\t', r)
  | 'n' :: r => some ('\n', r)
  | 'f' :: r => some ('\x0c', r)
  | 'r' :: r => some ('\r', r)
  | '"' :: r => some ('"', r)
  | '\\' :: r => some ('\\', r)
  | 'u' :: r => coded 4 r
  | 'U' :: r => coded 8 r
  | _ => none
where
  /-- Reads a code point of so many digits. -/
  coded (count : Nat) : Reading Char := fun r =>
    if (r.take count).length = count then
      ((hexValue? (r.take count)).bind character?).map fun c => (c, r.drop count)
    else none

/-- Reads a text in quotation marks, from behind the first of them; the fuel bounds its length. -/
def basicText : (fuel : Nat) → Reading (List Char)
  | 0, _ => none
  | _ + 1, '"' :: r => some ([], r)
  | fuel + 1, '\\' :: r => do
    let (c, r) ← escaped? r
    let (rest, r) ← basicText fuel r
    return (c :: rest, r)
  | fuel + 1, c :: r =>
    if isPlain c then (basicText fuel r).map fun (rest, r) => (c :: rest, r) else none
  | _, [] => none

/-- Reads a text in apostrophes, from behind the first of them. -/
def literalText : Reading (List Char)
  | '\'' :: r => some ([], r)
  | c :: r => if isPlain c then (literalText r).map fun (rest, r) => (c :: rest, r) else none
  | [] => none

/-- The text without the blanks and line ends at its start. -/
def skipBlankLines : List Char → List Char
  | '\n' :: r => skipBlankLines r
  | '\r' :: '\n' :: r => skipBlankLines r
  | c :: r => if isBlank c then skipBlankLines r else c :: r
  | [] => []

/-- The text behind a backslash at the end of a line: the line end and all blanks around it are left out. -/
def joinedLine? (cs : List Char) : Option (List Char) :=
  (lineEnd? (skipBlanks cs)).map skipBlankLines

/--
Reads a text that may go over several lines, from behind the three marks at its start.  Up to two marks
may stand right before the three at its end.
-/
def longText (mark : Char) (escapes : Bool) : (fuel : Nat) → Reading (List Char)
  | 0, _ => none
  | fuel + 1, cs =>
    let go (c : Char) (r : List Char) : Option (List Char × List Char) :=
      (longText mark escapes fuel r).map fun (rest, r) => (c :: rest, r)
    match cs with
    | '\n' :: r => go '\n' r
    | '\r' :: '\n' :: r => go '\n' r
    | a :: r =>
      if a = mark then
        match r with
        | b :: c :: d :: e :: s =>
          if b = mark ∧ c = mark then
            if d = mark ∧ e = mark then some ([mark, mark], s)
            else if d = mark then some ([mark], e :: s)
            else some ([], d :: e :: s)
          else go a r
        | [b, c, d] =>
          if b = mark ∧ c = mark then if d = mark then some ([mark], []) else some ([], [d])
          else go a r
        | [b, c] => if b = mark ∧ c = mark then some ([], []) else go a r
        | _ => go a r
      else if escapes && a = '\\' then
        match joinedLine? r with
        | some r => longText mark escapes fuel r
        | none =>
          match escaped? r with
          | some (c, r) => go c r
          | none => none
      else if isPlain a then go a r
      else none
    | [] => none

/-- The text without the line end at its start. -/
def skipLineEnd (cs : List Char) : List Char :=
  (lineEnd? cs).getD cs

/-- Reads a text on one line. -/
def shortText? : Reading String
  | '"' :: r => (basicText (r.length + 1) r).map fun (cs, r) => (String.ofList cs, r)
  | '\'' :: r => (literalText r).map fun (cs, r) => (String.ofList cs, r)
  | _ => none

/-- Reads a text. -/
def text? : Reading String
  | '"' :: '"' :: '"' :: r =>
    (longText '"' true (r.length + 1) (skipLineEnd r)).map fun (cs, r) => (String.ofList cs, r)
  | '\'' :: '\'' :: '\'' :: r =>
    (longText '\'' false (r.length + 1) (skipLineEnd r)).map fun (cs, r) => (String.ofList cs, r)
  | r => shortText? r

/-! ## Keys -/

/-- So many parts are too many for a key, and so many levels too many for a value. -/
def depthLimit : Nat :=
  80

/-- The character may stand in a key without quotation marks. -/
def isBare (c : Char) : Bool :=
  c.isAlphanum || c == '-' || c == '_'

/-- Reads one part of a key. -/
def keyPart? (cs : List Char) : Option (String × List Char) :=
  match cs with
  | '"' :: _ | '\'' :: _ => shortText? cs
  | _ =>
    let name := cs.takeWhile isBare
    if name.isEmpty then none else some (String.ofList name, cs.drop name.length)

/-- Reads the parts of a key between dots, with blanks around them. -/
def keyParts? : (fuel : Nat) → Reading (List String)
  | 0, _ => none
  | fuel + 1, cs => do
    let (part, r) ← keyPart? (skipBlanks cs)
    match skipBlanks r with
    | '.' :: r => (keyParts? fuel r).map fun (rest, r) => (part :: rest, r)
    | r => return ([part], r)

/-- Reads a key: the path to it and its last part. -/
def key? (cs : List Char) : Option ((List String × String) × List Char) := do
  let (parts, r) ← keyParts? (cs.length + 1) cs
  let last ← parts.getLast?
  if parts.length < depthLimit then some ((parts.dropLast, last), r) else none

/-! ## Numbers -/

/-- Reads digits, between which single underscores may stand, and gives the digits. -/
def digits? (isDigit : Char → Bool) : Reading (List Char)
  | c :: '_' :: r =>
    if isDigit c then (digits? isDigit r).map fun (rest, r) => (c :: rest, r) else none
  | c :: r =>
    if isDigit c then
      match digits? isDigit r with
      | some (rest, r) => some (c :: rest, r)
      | none => some ([c], r)
    else none
  | [] => none

/-- Reads a sign, if there is one; it is negative. -/
def sign : List Char → Bool × List Char
  | '+' :: r => (false, r)
  | '-' :: r => (true, r)
  | r => (false, r)

/-- Reads decimal digits without needless zeros in front. -/
def whole? : Reading (List Char)
  | '0' :: r => some (['0'], r)
  | r => digits? Char.isDigit r

/-- The integer, if it has 64 bits. -/
def word? (n : Int) : Option Toml :=
  if -0x8000000000000000 ≤ n ∧ n < 0x8000000000000000 then some (.integer n) else none

/-- Reads an integer in digits of some base. -/
def based? (base : Nat) : Reading Toml := fun cs => do
  let isDigit (c : Char) : Bool := (Text.Hex.value? c).any (· < base)
  let (digits, r) ← digits? isDigit cs
  let n := digits.foldl (fun n c => base * n + (Text.Hex.value? c).getD 0) 0
  return (← word? n, r)

/-- Reads an integer. -/
def integer? : Reading Toml
  | '0' :: 'x' :: r => based? 16 r
  | '0' :: 'o' :: r => based? 8 r
  | '0' :: 'b' :: r => based? 2 r
  | cs => do
    let (isNegative, r) := sign cs
    let (digits, r) ← whole? r
    let n : Int := Text.Decimal.value digits
    return (← word? (if isNegative then -n else n), r)

/-- Reads an exponent. -/
def exponent? : Reading Int
  | 'e' :: r | 'E' :: r => do
    let (isNegative, r) := sign r
    let (digits, r) ← digits? Char.isDigit r
    let n : Int := Text.Decimal.value digits
    return (if isNegative then -n else n, r)
  | _ => none

/-- Reads the digits behind a point. -/
def fraction? : Reading (List Char)
  | '.' :: r => digits? Char.isDigit r
  | _ => none

/-- Reads a number with a point or an exponent; it may be too small, but not too large. -/
def decimal? (cs : List Char) : Option (Toml × List Char) := do
  let (isNegative, r) := sign cs
  let (digits, r) ← whole? r
  let (places, r) := (fraction? r).getD ([], r)
  let (exponent, r) ←
    if places.isEmpty then exponent? r else some ((exponent? r).getD (0, r))
  let mantissa := Text.Decimal.valueFrom (Text.Decimal.value digits) places
  if !isNegative && Text.Binary64.overflows mantissa (exponent - places.length) then none
  else some (.float (String.ofList (cs.take (cs.length - r.length))), r)

/-- Reads an infinite number, or none. -/
def special? (cs : List Char) : Option (Toml × List Char) :=
  match (sign cs).2 with
  | 'i' :: 'n' :: 'f' :: r => some (.float "inf", r)
  | 'n' :: 'a' :: 'n' :: r => some (.float "nan", r)
  | _ => none

/-- Reads a date, a time or a number. -/
def number? (cs : List Char) : Option (Toml × List Char) :=
  match moment? cs with
  | some r => some (.moment (String.ofList (cs.take (cs.length - r.length))), r)
  | none =>
    match decimal? cs with
    | some read => some read
    | none =>
      match special? cs with
      | some read => some read
      | none => integer? cs

/-! ## Values -/

mutual

/-- Reads a value on a level below the limit; `fuel` bounds the length of what is read. -/
def value? : (fuel level : Nat) → Reading Toml
  | 0, _, _ => none
  | fuel + 1, level, cs =>
    match cs with
    | '"' :: _ | '\'' :: _ => (text? cs).map fun (s, r) => (.text s, r)
    | '[' :: r =>
      if level + 1 < depthLimit then
        (items? fuel (level + 1) r).map fun (items, r) => (.array items, r)
      else none
    | '\x7b' :: r =>
      if level + 1 < depthLimit then do
        let (assignments, r) ← assignments? fuel (level + 1) r
        return (← ofAssignments? assignments, r)
      else none
    | 't' :: 'r' :: 'u' :: 'e' :: r => some (.bool true, r)
    | 'f' :: 'a' :: 'l' :: 's' :: 'e' :: r => some (.bool false, r)
    | r => number? r

/-- Reads the items of an array up to its end; a comma may follow the last of them. -/
def items? : (fuel level : Nat) → Reading (List Toml)
  | 0, _, _ => none
  | fuel + 1, level, cs => do
    match ← skipLines (cs.length + 1) cs with
    | ']' :: r => return ([], r)
    | r =>
      let (item, r) ← value? fuel level r
      match ← skipLines (r.length + 1) r with
      | ']' :: r => return ([item], r)
      | ',' :: r => (items? fuel level r).map fun (rest, r) => (item :: rest, r)
      | _ => none

/-- Reads the assignments within braces up to the end; they stand on one line. -/
def assignments? : (fuel level : Nat) → Reading (List (List String × String × Toml))
  | 0, _, _ => none
  | fuel + 1, level, cs =>
    match skipBlanks cs with
    | '\x7d' :: r => some ([], r)
    | r => moreAssignments? fuel level r

/-- Reads one assignment and those behind it up to the end. -/
def moreAssignments? : (fuel level : Nat) → Reading (List (List String × String × Toml))
  | 0, _, _ => none
  | fuel + 1, level, cs => do
    let ((path, key), r) ← key? cs
    let (value, r) ← match r with
      | '=' :: r => value? fuel level (skipBlanks r)
      | _ => none
    match skipBlanks r with
    | '\x7d' :: r => return ([(path, key, value)], r)
    | ',' :: r =>
      (moreAssignments? fuel level r).map fun (rest, r) => ((path, key, value) :: rest, r)
    | _ => none

end

/-! ## Documents -/

/-- Reads a statement and the rest of its line. -/
def statement? (cs : List Char) : Option (Statement × List Char) :=
  match cs with
  | '[' :: '[' :: r => do
    let ((path, key), r) ← key? r
    match r with
    | ']' :: ']' :: r => return (.arrayHeader path key, ← restOfLine? r)
    | _ => none
  | '[' :: r => do
    let ((path, key), r) ← key? r
    match r with
    | ']' :: r => return (.header path key, ← restOfLine? r)
    | _ => none
  | r => do
    let ((path, key), r) ← key? r
    match r with
    | '=' :: r =>
      let (value, r) ← value? (2 * r.length + 2) 0 (skipBlanks r)
      return (.assignment path key value, ← restOfLine? r)
    | _ => none

/-- Reads the statements of a document; `fuel` bounds their number. -/
def statements? : (fuel : Nat) → List Char → Option (List Statement)
  | 0, _ => none
  | fuel + 1, cs => do
    match ← skipLines (cs.length + 1) cs with
    | [] => return []
    | r =>
      let (statement, r) ← statement? r
      return statement :: (← statements? fuel r)

/-- Reads a document, which may begin with a byte order mark. -/
def read? (text : String) : Option Entries :=
  let cs := match text.toList with
    | '\ufeff' :: r => r
    | r => r
  (statements? (cs.length + 1) cs).bind ofStatements?

end Jukebox.Toml
