import Jukebox.Text.CaseTable

/-!
Small letters.

Each character is replaced by its small letter; the dotted capital I becomes two characters, and a
capital sigma becomes the final sigma at the end of a word.
-/

namespace Jukebox.Text

/-- The code point lies in one of the ranges. -/
def inRanges (ranges : List (Nat × Nat)) (c : Char) : Bool :=
  ranges.any fun (first, last) => first ≤ c.toNat && c.toNat ≤ last

/-- The small letter of one character outside ASCII. -/
def smallLetter (c : Char) : Char :=
  let holds (run : CaseTable.Run) : Bool :=
    run.first ≤ c.toNat && c.toNat ≤ run.last && (c.toNat - run.first) % run.step == 0
  match CaseTable.lowercase.find? holds with
  | some run => Char.ofNat ((c.toNat : Int) + run.shift).toNat
  | none => c

/-- A letter comes next, characters that words may hold between letters left aside. -/
def letterFollows (cs : List Char) : Bool :=
  match cs.dropWhile (inRanges CaseTable.ignorable) with
  | c :: _ => inRanges CaseTable.cased c
  | [] => false

/-- The small letters of a text whose earlier characters are `before`, the last of them first. -/
def lowercaseFrom (before : List Char) : List Char → List Char
  | [] => []
  | c :: rest =>
    let letters :=
      if c.toNat < 128 then [c.toLower]
      else if c = 'Σ' then [if letterFollows before && !letterFollows rest then 'ς' else 'σ']
      else if c = 'İ' then ['i', '\u0307']
      else [smallLetter c]
    letters ++ lowercaseFrom (c :: before) rest

/-- The text in small letters. -/
def lowercase (text : String) : String :=
  String.ofList (lowercaseFrom [] text.toList)

/-- The first text is a part of the second. -/
def isPartOf (part whole : List Char) : Bool :=
  match whole with
  | [] => part.isEmpty
  | _ :: rest => part.isPrefixOf whole || isPartOf part rest

end Jukebox.Text
