import Jukebox.Config.Load

/-!
A folder of files held in memory.

Paths lead into the folder when they begin with its own.  A path goes from folder to folder, back by two
dots, and nothing stands where it leaves the folder or goes through a file.
-/

namespace Jukebox.Config

/-- A folder, by its path, and the files and empty folders in it by their paths from there. -/
structure Folder where
  path : String
  /-- For each path the text of the file there, or nothing for a folder. -/
  files : List (String × Option String)

namespace Folder

/-- The names in a path; a name that is one dot stays where it is. -/
def names (path : String) : List String :=
  (path.splitOn "/").filter fun name => !(name.isEmpty || name == ".")

/-- The names lead to a folder. -/
def isFolder (f : Folder) (here : List String) : Bool :=
  here.isEmpty || f.files.any fun (path, content) =>
    here.isPrefixOf (names path) && (content.isNone || here.length < (names path).length)

/-- Follows names from a place in the folder, none if that leads out of it or through a file. -/
def locate (f : Folder) : List String → List String → Option (List String)
  | here, [] => some here
  | here, name :: rest =>
    if !f.isFolder here then none
    else if name = ".." then if here.isEmpty then none else locate f here.dropLast rest
    else locate f (here ++ [name]) rest

/-- The file to which names lead. -/
def content? (f : Folder) (here : List String) : Option File :=
  match f.files.find? fun (path, _) => names path == here with
  | some (_, some text) => some (.text text)
  | _ => none

/-- What stands at a path; a path that ends in a slash leads to no file. -/
def file? (f : Folder) (path : String) : Option File := do
  let root := names f.path
  if path.startsWith "/" && root.isPrefixOf (names path) then
    let here ← f.locate [] ((names path).drop root.length)
    if f.isFolder here then some .directory
    else if path.endsWith "/" then none
    else f.content? here
  else none

end Folder
end Jukebox.Config
