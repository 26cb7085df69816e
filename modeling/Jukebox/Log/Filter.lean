import Jukebox.Log
import Jukebox.Text.Percent

/-!
Filters that choose which records of the log are shown.

A filter is written as rules between commas.  A rule is a level, or the beginning of a target's name, or
such a beginning with a level behind an equals sign; a beginning alone shows everything.  A record is
judged by the rule with the longest beginning that its target has.
-/

namespace Jukebox.Log

/-- One rule of a filter. -/
structure Rule where
  /-- The beginning of the targets that the rule is for; all targets, if there is none. -/
  target : Option String
  /-- The rank of the least important level that is shown; zero shows nothing. -/
  threshold : Nat
deriving DecidableEq, Repr

namespace Rule

/-- Everything is shown from here on. -/
def everything : Nat :=
  5

/-- The rank that a word or a digit gives. -/
def threshold? (word : String) : Option Nat :=
  match String.ofList (word.toList.map Char.toLower) with
  | "off" | "0" => some 0
  | "" | "error" | "1" => some 1
  | "warn" | "2" => some 2
  | "info" | "3" => some 3
  | "debug" | "4" => some 4
  | "trace" | "5" => some everything
  | _ => none

/-- A rule may begin with the character. -/
def mayBegin (c : Char) : Bool :=
  c.isAlphanum || c == '-' || c == ':' || c == '_' || 0x80 ≤ c.toNat

/-- Reads a rule. -/
def parse? (text : String) : Option Rule :=
  let cs := text.toList
  if !(cs.head?.any mayBegin) then none
  else
    let name := cs.takeWhile (· != '=')
    match cs.drop name.length with
    | [] =>
      match threshold? text with
      | some threshold => some ⟨none, threshold⟩
      | none => some ⟨some text, everything⟩
    | [_] => some ⟨some (String.ofList name), everything⟩
    | _ :: level =>
      (threshold? (String.ofList level)).map fun threshold =>
        ⟨some (String.ofList name), threshold⟩

/-- The rule is for a record. -/
def covers (rule : Rule) (r : Record) : Bool :=
  match rule.target with
  | some target => target.toList.isPrefixOf r.target.toList
  | none => true

/-- How narrow a rule is. -/
def narrowness (rule : Rule) : Nat :=
  match rule.target with
  | some target => target.utf8ByteSize + 1
  | none => 0

end Rule

/-- A filter. -/
abbrev Filter :=
  List Rule

namespace Filter

/-- The rules of a text. -/
def rules (text : String) : List (Option Rule) :=
  ((Text.Percent.splitAt ',' text.toList).filter (!·.isEmpty)).map fun rule =>
    Rule.parse? (String.ofList rule)

/-- A filter without rules shows errors. -/
def orErrors (filter : Filter) : Filter :=
  if filter.isEmpty then [⟨none, 1⟩] else filter

/-- Reads a filter in which every rule can be read. -/
def parse? (text : String) : Option Filter :=
  ((rules text).mapM id).map orErrors

/-- Reads the rules of a filter that can be read. -/
def parseSome (text : String) : Filter :=
  orErrors ((rules text).filterMap id)

/-- The rule by which a record is judged: of two that are equally narrow, the later. -/
def rule? (filter : Filter) (r : Record) : Option Rule :=
  (filter.filter (·.covers r)).foldl (fun best rule =>
    match best with
    | some other => if rule.narrowness < other.narrowness then some other else some rule
    | none => some rule) none

/-- The record is shown. -/
def shows (filter : Filter) (r : Record) : Bool :=
  (filter.rule? r).any fun rule => r.level.rank ≤ rule.threshold

/-- The filter of a process: the one that its environment gives, or else the one for its level. -/
def choose (given : Option String) (level : String) : Filter :=
  match given.bind parse? with
  | some filter => filter
  | none => parseSome (filterText level)

end Filter
end Jukebox.Log
