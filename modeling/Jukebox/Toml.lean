/-!
TOML values and how a document builds them.

A table remembers how it came about, since that decides whether it may still grow: one that a header
defined is not defined again, one that only stands in the path of another header may be defined once,
one made by dotted keys grows by dotted keys only, and one in braces never grows.
-/

namespace Jukebox

/-- How a table came about. -/
inductive Toml.Origin where
  /-- By a header of its own, or as the whole document. -/
  | header
  /-- By standing in the path of a header. -/
  | implied
  /-- By dotted keys. -/
  | dotted
  /-- In braces. -/
  | inline
deriving DecidableEq, Repr, Inhabited

/-- A TOML value. -/
inductive Toml where
  | text (s : String)
  | integer (n : Int)
  /-- A number with a point or an exponent, or one that is none, as it is written. -/
  | float (literal : String)
  | bool (b : Bool)
  /-- A date, a time or both, as it is written. -/
  | moment (literal : String)
  | array (items : List Toml)
  | table (origin : Toml.Origin) (entries : List (String × Toml))
  /-- The tables of a header in double brackets. -/
  | tables (items : List Toml)
deriving Inhabited

namespace Toml

/-- Keys and their values. -/
abbrev Entries :=
  List (String × Toml)

namespace Entries

/-- Gives a key a value in the place of the one it has, or at the end. -/
def set (key : String) (value : Toml) : Entries → Entries
  | [] => [(key, value)]
  | (k, v) :: rest => if k = key then (k, value) :: rest else (k, v) :: set key value rest

/-- The key has a value. -/
def has (key : String) (entries : Entries) : Bool :=
  (entries.lookup key).isSome

end Entries

/-- A change of a table, which may be refused. -/
abbrev Change :=
  Origin → Entries → Option (Origin × Entries)

/--
Changes the table to which a path leads, making the tables on the way that are not there.  In an array
of tables the path leads to the last one.  A dotted path does not lead through tables with a header of
their own.
-/
def descend (dotted : Bool) (change : Change) : List String → Change
  | [], origin, entries => change origin entries
  | key :: rest, origin, entries =>
    let put (value : Toml) : Origin × Entries := (origin, entries.set key value)
    match entries.lookup key with
    | none =>
      (descend dotted change rest (if dotted then .dotted else .implied) []).map fun (o, t) =>
        put (.table o t)
    | some (.table o t) =>
      if o = .inline ∨ (dotted ∧ o = .header) then none
      else (descend dotted change rest o t).map fun (o, t) => put (.table o t)
    | some (.tables items) =>
      match items.getLast? with
      | some (.table o t) =>
        (descend dotted change rest o t).map fun (o, t) => put (.tables (items.dropLast ++ [.table o t]))
      | _ => none
    | some _ => none

/-- Gives a key its value; dotted keys go only into tables that dotted keys made, others only into others. -/
def assign (path : List String) (key : String) (value : Toml) : Change :=
  descend true (fun origin entries =>
    if (origin == .dotted) == path.isEmpty || entries.has key then none
    else some (origin, entries ++ [(key, value)])) path

/-- Defines a table by its header. -/
def define (key : String) : Change := fun origin entries =>
  match entries.lookup key with
  | none => some (origin, entries ++ [(key, .table .header [])])
  | some (.table .implied t) => some (origin, entries.set key (.table .header t))
  | some _ => none

/-- Adds a table to an array of tables. -/
def extend (key : String) : Change := fun origin entries =>
  match entries.lookup key with
  | none => some (origin, entries ++ [(key, .tables [.table .header []])])
  | some (.tables items) => some (origin, entries.set key (.tables (items ++ [.table .header []])))
  | some _ => none

/-! ## Documents -/

/-- A line of a document that says something. -/
inductive Statement where
  /-- The table whose keys follow. -/
  | header (path : List String) (key : String)
  /-- The array of tables of which one more follows. -/
  | arrayHeader (path : List String) (key : String)
  /-- A key, behind the path of dotted keys to it, and its value. -/
  | assignment (path : List String) (key : String) (value : Toml)

/-- What was built so far, and the path of the table to which the next keys belong. -/
structure Draft where
  entries : Entries
  current : List String

namespace Draft

/-- Nothing was built, and keys belong to the whole document. -/
def empty : Draft :=
  ⟨[], []⟩

/-- Follows a statement. -/
def follow (draft : Draft) : Statement → Option Draft
  | .header path key =>
    (descend false (define key) path .header draft.entries).map fun (_, entries) =>
      ⟨entries, path ++ [key]⟩
  | .arrayHeader path key =>
    (descend false (extend key) path .header draft.entries).map fun (_, entries) =>
      ⟨entries, path ++ [key]⟩
  | .assignment path key value =>
    (descend false (assign path key value) draft.current .header draft.entries).map
      fun (_, entries) => { draft with entries := entries }

end Draft

/-- The table that the statements of a document build. -/
def ofStatements? (statements : List Statement) : Option Entries :=
  (statements.foldlM Draft.follow .empty).map (·.entries)

/-- The table in braces that assignments build. -/
def ofAssignments? (assignments : List (List String × String × Toml)) : Option Toml :=
  (assignments.foldlM put []).map (.table .inline)
where
  /-- Follows one assignment. -/
  put (entries : Entries) (a : List String × String × Toml) : Option Entries :=
    (assign a.1 a.2.1 a.2.2 .inline entries).map (·.2)

end Toml
end Jukebox
