import Jukebox.About
import Jukebox.Config.Load
import Jukebox.Text.Decimal

/-!
The command line.

Arguments are read from left to right.  A setting takes its value from the same argument or from the next
one; what it has is looked at before the next setting is read, and help and the version are shown as soon
as they are asked for.  A setting that is not given may come from the environment.
-/

namespace Jukebox.CommandLine

/-- What can be set. -/
inductive Setting where
  | config
  | port
  | backend
deriving DecidableEq, Repr

/-- What can be asked for instead of serving a party. -/
inductive Flag where
  | help
  | version
deriving DecidableEq, Repr

namespace Setting

/-- The long name of a setting. -/
def name : Setting → String
  | .config => "config"
  | .port => "port"
  | .backend => "backend"

/-- The setting and the place of its value, as they are shown. -/
def usage : Setting → String
  | .config => "--config <CONFIG>"
  | .port => "--port <PORT>"
  | .backend => "--backend <BACKEND>"

/-- What a setting is for. -/
def purpose : Setting → String
  | .config => "Configuration file (TOML)"
  | .port => "Port to listen on"
  | .backend => "Playback backend (spotify or memory)"

/-- The variable that gives a setting which the arguments do not give. -/
def envName? : Setting → Option String
  | .config => none
  | .port => some "PARTYQ_PORT"
  | .backend => some "PARTYQ_BACKEND"

/-- All settings. -/
def all : List Setting :=
  [.config, .port, .backend]

end Setting

/-- Why a command line cannot be followed. -/
inductive Fault where
  | unexpected (argument : String)
  | noValue (setting : Setting)
  | badValue (setting : Setting) (value reason : String)
  | repeated (setting : Setting)
  | needlessValue (flag : Flag) (value : String)
deriving DecidableEq, Repr

/-- The long name of a flag. -/
def Flag.name : Flag → String
  | .help => "help"
  | .version => "version"

/-- The line that tells of a fault. -/
def Fault.message : Fault → String
  | .unexpected argument => s!"error: unexpected argument '{argument}' found"
  | .noValue setting => s!"error: a value is required for '{setting.usage}' but none was supplied"
  | .badValue setting value reason =>
    s!"error: invalid value '{value}' for '{setting.usage}': {reason}"
  | .repeated setting => s!"error: the argument '{setting.usage}' cannot be used multiple times"
  | .needlessValue flag value =>
    s!"error: unexpected value '{value}' for '--{flag.name}' found; no more were accepted"

/-! ## Values -/

/-- Reads decimal digits as an integer of 64 bits, as far as the first fault. -/
def digits (isNegative : Bool) (n : Nat) : List Char → Except String Int
  | [] => .ok (if isNegative then -n else n)
  | c :: rest =>
    if !c.isDigit then .error "invalid digit found in string"
    else
      let m := 10 * n + Text.Decimal.digitValue c
      if isNegative then
        if 0x8000000000000000 < m then .error "number too small to fit in target type"
        else digits isNegative m rest
      else if 0x8000000000000000 ≤ m then .error "number too large to fit in target type"
      else digits isNegative m rest

/-- Reads an integer of 64 bits. -/
def integer (value : String) : Except String Int :=
  match value.toList with
  | [] => .error "cannot parse integer from empty string"
  | ['+'] | ['-'] => .error "invalid digit found in string"
  | '+' :: r => digits false 0 r
  | '-' :: r => digits true 0 r
  | r => digits false 0 r

/-- Reads a port. -/
def port (value : String) : Except String UInt16 := do
  let n ← integer value
  if 0 ≤ n ∧ n < 0x10000 then return n.toNat.toUInt16
  else .error s!"{n} is not in 0..=65535"

/-- What is set so far, and the setting whose value is still to be looked at. -/
structure Draft where
  given : Config.Overrides
  pending : Option (Setting × Option String)

namespace Draft

/-- Nothing is set. -/
def empty : Draft :=
  ⟨⟨none, none, none⟩, none⟩

/-- The setting was given. -/
def has (d : Draft) : Setting → Bool
  | .config => d.given.config.isSome
  | .port => d.given.port.isSome
  | .backend => d.given.backend.isSome

/-- Gives a setting its value. -/
def set (d : Draft) (setting : Setting) (value : String) : Except Fault Draft :=
  match setting with
  | .config =>
    if value.isEmpty then .error (.noValue setting)
    else .ok { d with given := { d.given with config := some value } }
  | .port =>
    match port value with
    | .ok port => .ok { d with given := { d.given with port := some port } }
    | .error reason => .error (.badValue setting value reason)
  | .backend =>
    match Service.Kind.parse value with
    | .ok kind => .ok { d with given := { d.given with backend := some kind } }
    | .error e => .error (.badValue setting value e.message)

/-- Gives a setting the value that the arguments have for it. -/
def accept (d : Draft) (setting : Setting) (value : String) : Except Fault Draft :=
  if d.has setting then .error (.repeated setting) else d.set setting value

/-- Looks at the value of the setting that was read last. -/
def settle (d : Draft) : Except Fault Draft :=
  match d.pending with
  | none => .ok d
  | some (setting, none) => .error (.noValue setting)
  | some (setting, some value) => { d with pending := none }.accept setting value

/-- Begins a setting, whose value may stand in the same argument. -/
def begin (d : Draft) (setting : Setting) (value : Option String) : Except Fault Draft := do
  let d ← d.settle
  match value with
  | some value => d.accept setting value
  | none => return { d with pending := some (setting, none) }

/-- Gives a setting the value of its variable, unless it was given already. -/
def orVariable (around : Config.Surroundings) (d : Draft) (setting : Setting) : Except Fault Draft :=
  if d.has setting then .ok d
  else
    match setting.envName?.bind around.env? with
    | some value => d.set setting value
    | none => .ok d

end Draft

/-! ## Arguments -/

/-- One argument. -/
inductive Argument where
  /-- A setting, perhaps with its value. -/
  | setting (s : Setting) (value : Option String)
  /-- A flag, perhaps with a value that it does not take. -/
  | flag (f : Flag) (value : Option String)
  /-- Whatever follows is no setting and no flag. -/
  | separator
  /-- Something like a setting or a flag that is none. -/
  | unknown (shown : String)
  /-- A value, or nothing that is expected. -/
  | plain (text : String)
deriving DecidableEq, Repr

/-- An argument that begins with two dashes. -/
def Argument.ofLong (cs : List Char) : Argument :=
  let name := String.ofList (cs.takeWhile (· != '='))
  let value := match cs.dropWhile (· != '=') with
    | [] => none
    | _ :: value => some (String.ofList value)
  match name with
  | "config" => .setting .config value
  | "port" => .setting .port value
  | "backend" => .setting .backend value
  | "help" => .flag .help value
  | "version" => .flag .version value
  | name => .unknown s!"--{name}"

/-- An argument that begins with one dash and a letter. -/
def Argument.ofShort (c : Char) (cs : List Char) : Argument :=
  let value := match cs with
    | [] => none
    | '=' :: value => some (String.ofList value)
    | value => some (String.ofList value)
  match c with
  | 'c' => .setting .config value
  | 'p' => .setting .port value
  | 'b' => .setting .backend value
  | 'h' => .flag .help none
  | 'V' => .flag .version none
  | c => .unknown (String.ofList ['-', c])

/-- What an argument is. -/
def Argument.ofText (text : String) : Argument :=
  match text.toList with
  | ['-', '-'] => .separator
  | '-' :: '-' :: r => .ofLong r
  | '-' :: c :: r => .ofShort c r
  | _ => .plain text

/-- What a command line asks for. -/
inductive Wish where
  /-- Serve a party. -/
  | serve (given : Config.Overrides)
  | show (flag : Flag)
deriving DecidableEq

/-- What the end of the arguments leads to: what is not given comes from the environment. -/
def finish (around : Config.Surroundings) (d : Draft) : Except Fault Wish := do
  let d ← d.settle
  let d ← Setting.all.foldlM (Draft.orVariable around) d
  return .serve d.given

/-- Follows the arguments from a draft on. -/
def follow (around : Config.Surroundings) (d : Draft) : List String → Except Fault Wish
  | [] => finish around d
  | text :: rest =>
    match Argument.ofText text with
    | .setting setting value => do follow around (← d.begin setting value) rest
    | .flag flag none => do
      let _ ← d.settle
      return .show flag
    | .flag flag (some value) => .error (.needlessValue flag value)
    | .unknown shown => .error (.unexpected shown)
    | .separator =>
      match rest with
      | [] => finish around d
      | text :: _ => .error (.unexpected text)
    | .plain text =>
      match d.pending with
      | some (setting, none) =>
        follow around { d with pending := some (setting, some text) } rest
      | _ => .error (.unexpected text)

/-- Reads a command line. -/
def read (around : Config.Surroundings) (arguments : List String) : Except Fault Wish :=
  follow around .empty arguments

/-! ## Help -/

/-- A line of the help: what can be written, in its column, and what that does. -/
def helpLine (written does : String) : String :=
  let blanks := String.ofList (List.replicate (25 - written.length) ' ')
  s!"  {written}{blanks}{does}\n"

/-- The line of the help about a setting, with the variable that can give it and what that is now. -/
def settingLine (around : Config.Surroundings) (setting : Setting) : String :=
  let note := match setting.envName? with
    | none => ""
    | some name =>
      let value := (around.env? name).getD ""
      s!" [env: {name}={value}]"
  let letter := (setting.name.take 1).toString
  helpLine s!"-{letter}, {setting.usage}" (setting.purpose ++ note)

/-- The help. -/
def help (around : Config.Surroundings) : String :=
  let settings := String.join (Setting.all.map (settingLine around))
  s!"{About.purpose}\n\nUsage: {About.name} [OPTIONS]\n\nOptions:\n{settings}" ++
    helpLine "-h, --help" "Print help" ++ helpLine "-V, --version" "Print version"

/-- The line that gives the version. -/
def versionLine : String :=
  s!"{About.name} {About.version}\n"

end Jukebox.CommandLine
