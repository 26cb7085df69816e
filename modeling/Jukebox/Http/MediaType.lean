/-!
The media types that requests name for their bodies.

A media type is a type and a subtype, which may end in a suffix after a plus sign, and parameters.
-/

namespace Jukebox.Http

/-- A media type without its parameters, in small letters. -/
structure MediaType where
  type : String
  subtype : String
  /-- What follows the last plus sign in the subtype. -/
  suffix : Option String
deriving DecidableEq

namespace MediaType

/-- The character may stand in the names within a media type. -/
def isToken (c : Char) : Bool :=
  c.isAlphanum || "!#$%&'+-.^_\x60|~".contains c

/-- The character may stand in a quoted value. -/
def isQuotable (c : Char) : Bool :=
  c != '"' && (c == '\t' || (32 ≤ c.toNat && c.toNat < 127))

mutual

/-- The text is a list of parameters, or nothing. -/
def isParameters (fuel : Nat) (cs : List Char) : Bool :=
  match fuel with
  | 0 => false
  | fuel + 1 =>
    let cs := cs.dropWhile (· == ' ')
    if cs.isEmpty then true
    else
      let name := cs.takeWhile isToken
      match cs.drop name.length with
      | '=' :: '"' :: rest =>
        let value := rest.takeWhile isQuotable
        match rest.drop value.length with
        | '"' :: rest => !value.isEmpty && !name.isEmpty && isParametersAfter fuel (rest.dropWhile (· == ' '))
        | _ => false
      | '=' :: rest =>
        let value := rest.takeWhile isToken
        !name.isEmpty && (!value.isEmpty || rest.isEmpty) && isParametersAfter fuel (rest.drop value.length)
      | _ => false

/-- The text is nothing, or a semicolon and a list of parameters. -/
def isParametersAfter (fuel : Nat) (cs : List Char) : Bool :=
  match fuel, cs with
  | _, [] => true
  | fuel + 1, ';' :: rest => isParameters fuel rest
  | _, _ => false

end

/-- Separates what stands before the last plus sign from what follows it. -/
def splitSuffix (subtype : List Char) : List Char × Option (List Char) :=
  let suffix := (subtype.reverse.takeWhile (· != '+')).reverse
  let stem := subtype.take (subtype.length - suffix.length - 1)
  if suffix.length < subtype.length ∧ stem ≠ [] then (stem, some suffix) else (subtype, none)

/-- Reads a media type. -/
def parse? (text : String) : Option MediaType :=
  let cs := text.toList.map Char.toLower
  let type := cs.takeWhile isToken
  match cs.drop type.length with
  | '/' :: rest =>
    let subtype := rest.takeWhile isToken
    let after := rest.drop subtype.length
    let (stem, suffix) := splitSuffix subtype
    if type.isEmpty || (subtype.isEmpty && !after.isEmpty) then none
    else if isParametersAfter (cs.length + 1) after then
      some ⟨String.ofList type, String.ofList stem, suffix.map String.ofList⟩
    else none
  | _ => none

/-- The body is JSON, by its subtype or by the suffix of that. -/
def isJson (m : MediaType) : Bool :=
  m.type == "application" && (m.subtype == "json" || m.suffix == some "json")

end MediaType
end Jukebox.Http
