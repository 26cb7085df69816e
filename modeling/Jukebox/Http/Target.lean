import Jukebox.Text.Percent

/-!
The target that an HTTP client sends for a URL: its path and its query in their normal form.

Tabs and line ends are left out, as are blanks at both ends and what follows a number sign.  In the
path a backslash counts as a slash, a segment of one dot vanishes, a segment of two dots takes the
segment before it along, and characters that may not stand in a path are percent-encoded.
-/

namespace Jukebox.Http.Target

/-- The character may stand at the ends of a written URL without being part of it. -/
def isMargin (c : Char) : Bool :=
  c.toNat ≤ 0x20

/-- The characters of a URL that count. -/
def tidy (url : List Char) : List Char :=
  let trimmed := ((url.dropWhile isMargin).reverse.dropWhile isMargin).reverse
  trimmed.filter fun c => !(c == '\t' || c == '\n' || c == '\r')

/-- What follows the scheme and the host of a URL. -/
def afterHost (url : List Char) : List Char :=
  let afterScheme := ((url.dropWhile (· != ':')).drop 1).dropWhile fun c => c == '/' || c == '\\'
  afterScheme.dropWhile fun c => !(c == '/' || c == '\\' || c == '?' || c == '#')

/-! ## Paths -/

/-- The character stands for itself in a path. -/
def isPathSafe (c : Char) : Bool :=
  0x20 < c.toNat && c.toNat < 0x7f && !"\"#<>?^\x60\x7b\x7d".contains c

/-- The segment is one dot, which may be percent-encoded. -/
def isDot (segment : List Char) : Bool :=
  segment.map Char.toLower ∈ [".".toList, "%2e".toList]

/-- The segment is two dots, each of which may be percent-encoded. -/
def isTwoDots (segment : List Char) : Bool :=
  segment.map Char.toLower ∈ ["..".toList, ".%2e".toList, "%2e.".toList, "%2e%2e".toList]

/-- Follows the segments from the path whose segments are `back`, the last of them first. -/
def follow (back : List (List Char)) : List (List Char) → List (List Char)
  | [] => back
  | [last] =>
    if isTwoDots last then [] :: back.drop 1
    else if isDot last then [] :: back
    else last :: back
  | segment :: rest =>
    if isTwoDots segment then follow (back.drop 1) rest
    else if isDot segment then follow back rest
    else follow (segment :: back) rest

/-- The segments of a path, each after its slash. -/
def segments (path : List Char) : List (List Char) :=
  let path := path.map fun c => if c = '\\' then '/' else c
  (Text.Percent.splitAt '/' path).drop 1

/-- A path in its normal form. -/
def normalPath (path : List Char) : List Char :=
  let normal := (follow [] (segments path)).reverse
  if normal.isEmpty then ['/']
  else normal.flatMap fun segment => '/' :: Text.Percent.encode isPathSafe segment

/-! ## Queries -/

/-- The character stands for itself in a query. -/
def isQuerySafe (c : Char) : Bool :=
  0x20 < c.toNat && c.toNat < 0x7f && !"\"#<>'".contains c

/-- The target for a URL. -/
def ofUrl (url : String) : String :=
  let sent := (afterHost (tidy url.toList)).takeWhile (· != '#')
  let path := sent.takeWhile (· != '?')
  match sent.drop path.length with
  | [] => String.ofList (normalPath path)
  | _ :: query => String.ofList (normalPath path ++ '?' :: Text.Percent.encode isQuerySafe query)

end Jukebox.Http.Target
