import Jukebox.Api
import Jukebox.Launch
import Std.Http
import Std.Time

/-!
The program: it serves the party over HTTP until it is told to end.

A request is one change of the party as a whole, and so is a tick of the scheduler.  There is no way from
here to services on the net, so a party that plays through Spotify reports that it cannot be reached.
-/

open Std.Async
open Std.Http (RequestTarget Request Response)

namespace Jukebox

/-- A party that is under way. -/
structure Live where
  party : IO.Ref (Party Service)
  /-- The reading of the machine's steady clock when the party began. -/
  startedAt : Nat

namespace Live

/-- Does something at the party at the present time. -/
def act {α : Type} (live : Live) (f : Party Service → α × Party Service) : IO α := do
  let clock : Instant := ⟨(← IO.monoMsNow) - live.startedAt⟩
  let nanoseconds := (← Std.Time.Timestamp.now).toNanosecondsSinceUnixEpoch.val
  let time := Timestamp.ofUnixNanoseconds nanoseconds.toNat
  live.party.modifyGet fun p => f { p with clock := clock, time := time }

/-- Ticks again and again. -/
partial def schedule (live : Live) (interval : Nat) : Async Unit := do
  let _ ← live.act fun p => p.runTick Service.backend
  sleep (.ofNat interval)
  schedule live interval

/-- The milliseconds between two looks for new events. -/
def streamPause : Nat :=
  50

/-- Sends the frames of an event stream as they come, until the client has gone. -/
partial def send (live : Live) (body : Std.Http.Body.Stream) (stream : Stream) : Async Unit := do
  if ← body.isClosed then
    live.act fun p => ((), Api.unwatch stream p)
  else
    let (frames, stream) ← live.act fun p =>
      let (frames, stream, p) := Api.frames stream p
      ((frames, stream), p)
    for frame in frames do
      body.send (.ofByteArray frame.text.toUTF8)
    sleep (.ofNat streamPause)
    send live body stream

/-- A request as it came over the net. -/
def requestOf (r : Request Std.Http.Body.Stream) : ContextAsync Http.Request := do
  let body : String ← r.body.readAll
  let contentType := (r.line.headers.get? (.mk "content-type")).map (·.value)
  return ⟨toString r.line.method, toString r.line.uri, contentType, body⟩

/-- An answer as it goes over the net. -/
def builderOf (response : Http.Response) : Response.Builder :=
  let builder : Response.Builder := { line := { status := statusOf response.status } }
  match response.contentType with
  | some type => (builder.header? "content-type" type).getD builder
  | none => builder
where
  /-- The status with a code. -/
  statusOf (code : Nat) : Std.Http.Status :=
    (Std.Http.Status.ofCode none code.toUInt16).getD .internalServerError

instance : Std.Http.Server.Handler Live where
  onRequest live r := do
    let request ← requestOf r
    let response ← live.act (Api.handle Service.backend request)
    let builder := builderOf response
    if response = Api.streamBegins ∧ request.method = "GET" then
      let stream ← live.act Api.watch
      let body ← Std.Http.Body.stream fun body => live.send body stream
      return (builder.body body : Response Std.Http.Body.Stream)
    else
      let body ← Std.Http.Body.stream fun body => do
        body.setKnownSize (some (.fixed response.body.utf8ByteSize))
        body.send (.ofByteArray response.body.toUTF8)
      return (builder.body body : Response Std.Http.Body.Stream)

end Live

/-! ## Starting and ending -/

/-- The variables that are looked at. -/
def variableNames : List String :=
  ["HOME", "XDG_CONFIG_HOME", "PARTYQ_CONFIG", "PARTYQ_PORT", "PARTYQ_BACKEND",
    "PARTYQ_SPOTIFY_CLIENT_ID", "PARTYQ_SPOTIFY_CLIENT_SECRET", "PARTYQ_SPOTIFY_REFRESH_TOKEN",
    "RUST_LOG"]

/-- What stands at a path on the machine. -/
def fileAt (path : String) : IO (Option Config.File) := do
  try
    return some (.text (← IO.FS.readFile path))
  catch
    | .noFileOrDirectory .. => return none
    | .inappropriateType .. => return some .directory
    | e => return some (.unreadable (toString e))

/-- The variables around the process, and the files that its configuration may come from. -/
def lookAround (arguments : List String) : IO Config.Surroundings := do
  let values ← variableNames.filterMapM fun name => do
    return (← IO.getEnv name).map fun value => (name, value)
  let alone : Config.Surroundings := ⟨fun _ => none, fun name => values.lookup name⟩
  let given := match CommandLine.read alone arguments with
    | .ok (.serve given) => given.config
    | _ => none
  let files ← (Config.candidates alone given).filterMapM fun path => do
    return (← fileAt path).map fun file => (path, file)
  return { alone with file? := fun path => files.lookup path }

/-- The address of a server in the form that sockets need. -/
def socketAddress (a : Http.Address) : Std.Net.SocketAddress :=
  match a.host with
  | .short a' b c d => .v4 ⟨.ofParts a'.toUInt8 b.toUInt8 c.toUInt8 d.toUInt8, a.port.toUInt16⟩
  | .long groups _ =>
    let group (i : Nat) : UInt16 := (groups.getD i 0).toUInt16
    .v6 ⟨.ofParts (group 0) (group 1) (group 2) (group 3) (group 4) (group 5) (group 6) (group 7),
      a.port.toUInt16⟩

/-- Prints records of the log. -/
def printLog (records : List Log.Record) : IO Unit :=
  for r in records do
    IO.println s!"{r.level.name} {r.target}: {r.text}"

/-- Waits until the process is told to end. -/
def waitForEnding : Async Launch.Ending := do
  let interrupt ← Signal.Waiter.mk .sigint false
  let terminate ← Signal.Waiter.mk .sigterm false
  Selectable.one #[
    .case interrupt.selector fun _ => return Launch.Ending.interrupted,
    .case terminate.selector fun _ => return Launch.Ending.terminated]

/-- The names of sessions: digits by chance, and then the number of the session. -/
def sessionName (chance : List UInt8) (i : Nat) : SessionId :=
  let digits := Text.Hex.digits (i + UInt32.size * chance.foldl (fun n b => 256 * n + b.toNat) 0)
  ⟨String.ofList (List.replicate (32 - digits.length) '0' ++ digits)⟩

/-- Serves the party until the process is told to end. -/
def serve (ready : Launch.Ready) : IO Unit := do
  let chance := (← IO.getRandomBytes 12).toList
  let time := Timestamp.ofUnixNanoseconds
    (← Std.Time.Timestamp.now).toNanosecondsSinceUnixEpoch.val.toNat
  let party ← IO.mkRef (ready.party (sessionName chance) time)
  let live : Live := ⟨party, ← IO.monoMsNow⟩
  printLog (ready.shown ready.opening)
  let ending ← Async.block do
    let server ← Std.Http.Server.serve (socketAddress ready.address) live
    background (live.schedule ready.config.scheduler.interval.toNat)
    let ending ← waitForEnding
    server.shutdown
    return ending
  printLog (ready.shown (Launch.Ready.closing ending))

end Jukebox

open Jukebox in
/-- Follows the command line; the code tells how that went. -/
def main (arguments : List String) : IO UInt32 := do
  match Launch.start (← lookAround arguments) .unreachable arguments with
  | .error outcome =>
    IO.print outcome.output
    printLog outcome.log
    for line in outcome.complaints do
      IO.eprintln line
    return outcome.code.toUInt32
  | .ok ready =>
    serve ready
    return 0
