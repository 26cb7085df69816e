import Jukebox.CommandLine
import Jukebox.Http.Address
import Jukebox.Log.Filter
import Jukebox.Party

/-!
From the start of the process to its end: what it prints, what it logs and the code it ends with.

A party is served from when everything is found to be right until the process is told to end.
-/

namespace Jukebox.Launch

/-- How a process ended, and what it said meanwhile. -/
structure Outcome where
  code : Nat
  /-- What was printed. -/
  output : String
  /-- The lines that tell of failures. -/
  complaints : List String
  /-- What was logged and shown. -/
  log : List Log.Record

/-- What tells a process to end. -/
inductive Ending where
  /-- A request to terminate. -/
  | terminated
  /-- An interrupt from the keyboard. -/
  | interrupted
deriving DecidableEq, Repr

/-- A process that is ready to serve a party. -/
structure Ready where
  config : Config
  source : Option String
  address : Http.Address
  service : Service
  filter : Log.Filter

/-! ## What is logged -/

/-- The targets of what is logged. -/
def main : String := "partyq"

/-- The target for the making of the services. -/
def assembly : String := "partyq_server::app"

/-- The target for the scheduler. -/
def scheduler : String := "partyq_server::scheduler"

/-- A record without particular importance. -/
def note (target text : String) : Log.Record :=
  ⟨target, .info, text⟩

/-- What is logged about the configuration. -/
def sourceNote : Option String → Log.Record
  | some path => note main s!"Configuration: {path}"
  | none => ⟨main, .warn, "No config file found, running on built-in defaults"⟩

/-- What is logged before the address is looked at. -/
def greeting (source : Option String) (backend : String) : List Log.Record :=
  [note main s!"Starting {About.name} v{About.version}", sourceNote source,
    note assembly s!"Playback backend: {backend}"]

namespace Ready

/-- The name of the playback service. -/
def backendName (r : Ready) : String :=
  Service.backend.name r.service

/-- What is logged until the party can be used. -/
def opening (r : Ready) : List Log.Record :=
  greeting r.source r.backendName ++
    [note scheduler
      s!"Scheduler started (interval {r.config.scheduler.interval.toNat}ms, backend {r.backendName})",
    note main s!"Listening on http://{r.address.text}"]

/-- What is logged when the process ends. -/
def closing (ending : Ending) : List Log.Record :=
  let reason := match ending with
    | .terminated => "Received terminate signal, shutting down"
    | .interrupted => "Received Ctrl+C, shutting down"
  [note main reason, note scheduler "Scheduler stopped", note main "Shutdown complete"]

/-- The records that are shown. -/
def shown (r : Ready) (records : List Log.Record) : List Log.Record :=
  records.filter r.filter.shows

/-- The party that is served. -/
def party (r : Ready) (sessionNames : Nat → SessionId) (time : Timestamp) : Party Service :=
  .new r.config.rules r.config.scheduler sessionNames r.service time

end Ready

/-! ## Starting -/

/-- The lines about a failure and its cause. -/
def complaint (what cause : String) : List String :=
  [s!"Error: {what}", "", "Caused by:"] ++ (cause.splitOn "\n").map fun line => s!"    {line}"

/-- The address to listen on. -/
def addressText (c : Config) : String :=
  s!"{c.server.bind}:{c.server.port.toNat}"

/-- Makes everything ready, or ends the process. -/
def start (around : Config.Surroundings) (web : Http.Web) (arguments : List String) :
    Except Outcome Ready :=
  match CommandLine.read around arguments with
  | .error fault => .error ⟨2, "", [fault.message], []⟩
  | .ok (.show .help) => .error ⟨0, CommandLine.help around, [], []⟩
  | .ok (.show .version) => .error ⟨0, CommandLine.versionLine, [], []⟩
  | .ok (.serve given) =>
    match Config.load around given with
    | .error e => .error ⟨1, "", complaint "Failed to load configuration" e.message, []⟩
    | .ok ⟨config, source⟩ =>
      let filter := Log.Filter.choose (around.env? "RUST_LOG") config.logLevel
      match config.service web with
      | .error e => .error ⟨1, "", complaint "Failed to initialize playback backend" e.message, []⟩
      | .ok service =>
        match Http.Address.parse? (addressText config) with
        | some address => .ok ⟨config, source, address, service, filter⟩
        | none =>
          let log := (greeting source (Service.backend.name service)).filter filter.shows
          .error ⟨1, "", complaint s!"Invalid bind address {addressText config}"
            "invalid socket address syntax", log⟩

/-- The whole life of a process that nobody uses before it is told to end. -/
def run (around : Config.Surroundings) (web : Http.Web) (arguments : List String)
    (ending : Ending) : Outcome :=
  match start around web arguments with
  | .error outcome => outcome
  | .ok ready => ⟨0, "", [], ready.shown (ready.opening ++ Ready.closing ending)⟩

end Jukebox.Launch
