import Jukebox.Config.Reader

/-!
Finding and loading the configuration.

What is given on the command line goes before what the environment says, that before the file, and that
before the defaults.
-/

namespace Jukebox.Config

/-- What stands at a path. -/
inductive File where
  | text (content : String)
  /-- Something that cannot be read, for a reason. -/
  | unreadable (reason : String)

/-- A directory. -/
def File.directory : File :=
  .unreadable "Is a directory (os error 21)"

/-- The files and the variables around a process. -/
structure Surroundings where
  /-- What stands at a path, if anything does. -/
  file? : String → Option File
  /-- The value of a variable, if it is set. -/
  env? : String → Option String

/-- What is given on the command line. -/
structure Overrides where
  /-- The path of the file. -/
  config : Option String
  port : Option UInt16
  backend : Option Service.Kind
deriving DecidableEq

/-- A configuration and the file that it came from. -/
structure Loaded where
  config : Config
  source : Option String
deriving DecidableEq

end Config

/-- The file is there but cannot be read. -/
def Error.unreadableFile (path reason : String) : Error :=
  ⟨.config, s!"Failed to read {path}: {reason}"⟩

namespace Config

/-! ## Finding the file -/

/-- A name within a directory. -/
def joinPath (directory name : String) : String :=
  if directory.endsWith "/" then directory ++ name else s!"{directory}/{name}"

/-- The directory in which a user's configurations are.  The user's home is known by its variable only; without one
there is no such directory, though the machine's list of users might tell. -/
def userDirectory? (around : Surroundings) : Option String :=
  match (around.env? "XDG_CONFIG_HOME").filter (·.startsWith "/") with
  | some directory => some directory
  | none => ((around.env? "HOME").filter (!·.isEmpty)).map (joinPath · ".config")

/-- The path at which the whole machine's configuration is. -/
def systemPath : String :=
  "/etc/partyq/config.toml"

/--
The path of the file: the one that is given, else the one that the environment names, else that of the
user, else that of the machine, of which the last two must exist.
-/
def path? (around : Surroundings) (given : Option String) : Option String :=
  given <|> (around.env? "PARTYQ_CONFIG").filter (!·.isEmpty) <|>
    ((userDirectory? around).map (joinPath · "partyq/config.toml")).filter exists? <|>
    (some systemPath).filter exists?
where
  /-- Something stands at the path. -/
  exists? (path : String) : Bool := (around.file? path).isSome

/-- The paths at which a file may be looked for. -/
def candidates (around : Surroundings) (given : Option String) : List String :=
  [given, around.env? "PARTYQ_CONFIG", (userDirectory? around).map (joinPath · "partyq/config.toml"),
    some systemPath].filterMap id

/-! ## Loading -/

/-- The configuration of the file at a path, or the defaults if there is none. -/
def ofPath (around : Surroundings) (path : Option String) : Except Error Config :=
  match path with
  | none => .ok default
  | some path =>
    match around.file? path with
    | none => .ok default
    | some (.text content) => parse content
    | some (.unreadable reason) => .error (.unreadableFile path reason)

/-- The configuration with the credentials that the environment gives. -/
def withVariables (around : Surroundings) (c : Config) : Config :=
  { c with spotify := {
      clientId := around.env? "PARTYQ_SPOTIFY_CLIENT_ID" <|> c.spotify.clientId
      clientSecret := around.env? "PARTYQ_SPOTIFY_CLIENT_SECRET" <|> c.spotify.clientSecret
      refreshToken := around.env? "PARTYQ_SPOTIFY_REFRESH_TOKEN" <|> c.spotify.refreshToken } }

/-- The configuration with what the command line gives. -/
def withOverrides (given : Overrides) (c : Config) : Config :=
  { c with
    server := { c.server with port := given.port.getD c.server.port }
    playback := { c.playback with backend := given.backend.getD c.playback.backend } }

/-- Loads the configuration of a process and makes sure that a party can be held with it. -/
def load (around : Surroundings) (given : Overrides) : Except Error Loaded := do
  let path := path? around given.config
  let config := withOverrides given (withVariables around (← ofPath around path))
  config.validate
  return ⟨config, path.filter fun path => (around.file? path).isSome⟩

end Config
end Jukebox
