import Jukebox.Backend
import Jukebox.Device
import Jukebox.Program

/-!
The gateway: what the party asks of the playback service, on top of the bare capabilities.

Every call goes through `Gateway.stage`, which renews expired credentials once and then tries once
more.  Starting, resuming, pausing and skipping hold one lock for their whole length, reading and
writing the volume another, so that commands of one kind never mix.
-/

namespace Jukebox

/-- There is nothing to resume. -/
def Error.nothingToResume : Error :=
  ⟨.invalidValue, "nothing is loaded to resume"⟩

/-- Without playback there is no volume to read. -/
def Error.noVolume : Error :=
  ⟨.invalidValue, "no active playback to read volume from"⟩

/-- A volume is a percentage. -/
def Error.volumeOutOfRange (percent : UInt8) : Error :=
  ⟨.invalidValue, s!"volume must be within 0..=100, got {percent.toNat}"⟩

namespace Gateway

/-- The locks that keep commands apart. -/
inductive Lock where
  /-- Held while playback is started, resumed, paused or skipped. -/
  | transport
  /-- Held while the volume is read or written. -/
  | volume
deriving DecidableEq

/-- One step of a gateway operation. -/
inductive Action where
  /-- Call the playback service. -/
  | call (c : Call)
  /-- Wait until the lock is free, and take it. -/
  | acquire (lock : Lock)
  /-- Give the lock back. -/
  | release (lock : Lock)

/-- What a step answers. -/
def Action.Answer : Action → Type
  | .call c => Except Error c.Result
  | .acquire _ | .release _ => Unit

/-- The interface of gateway operations. -/
abbrev interface : Interface :=
  ⟨Action, Action.Answer⟩

/-- A gateway operation that may fail. -/
abbrev Task (α : Type) :=
  ExceptT Error (Program interface) α

/-- One call, as it is. -/
def call (c : Call) : Task c.Result :=
  ExceptT.mk (Program.request (I := interface) (.call c))

/-- One call; if it reports expired credentials, they are renewed and the call is made once more. -/
def stage (c : Call) : Task c.Result :=
  tryCatch (call c) fun e => if e.isCredentialExpired then do call .refresh; call c else throw e

/-- Holds a lock while `body` runs, however that ends. -/
def holding {α : Type} (lock : Lock) (body : Task α) : Task α :=
  ExceptT.mk do
    Program.request (I := interface) (.acquire lock)
    let result ← body.run
    Program.request (I := interface) (.release lock)
    pure result

/-! ## Operations -/

/-- Asks what is playing. -/
def current : Task (Option Playback) :=
  stage .current

/-- Searches for tracks. -/
def search (pattern : String) (limit : Nat) : Task (List Track) :=
  stage (.search pattern limit)

/-- Looks a track up. -/
def lookup (id : TrackId) : Task Track :=
  stage (.lookup id)

/-- Starts a track on the selected device, which is made active first if nothing is loaded. -/
def play (preferred : Option String) (track : Track) : Task Unit :=
  holding .transport do
    let devices ← stage .devices
    let device ← ofExcept (Device.select devices preferred)
    let playback ← stage .current
    match (playback : Option Playback) with
    | none => stage (.transfer device)
    | some _ => pure ()
    stage (.start track.id device)

/-- Resumes what is loaded; what plays already is left alone. -/
def resume : Task Unit :=
  holding .transport do
    match (← stage .current : Option Playback) with
    | none => throw .nothingToResume
    | some playback => if playback.isPlaying then pure () else stage .resume

/-- Pauses what is playing, if anything is. -/
def pause : Task Unit :=
  holding .transport do
    match (← stage .current : Option Playback) with
    | none => pure ()
    | some playback => if playback.isPlaying then stage .pause else pure ()

/-- Ends the current track. -/
def skip : Task Unit :=
  holding .transport (stage .skip)

/-- Reads the volume without taking the lock. -/
def readVolume : Task UInt8 := do
  match (← stage .volume : Option UInt8) with
  | some volume => pure volume
  | none => throw .noVolume

/-- Reads the volume. -/
def volume : Task UInt8 :=
  holding .volume readVolume

/-- Sets the volume to a percentage. -/
def setVolume (percent : UInt8) : Task Unit :=
  if percent ≤ 100 then holding .volume (stage (.setVolume percent))
  else throw (.volumeOutOfRange percent)

/-- The volume after a step, kept within 0 and 100. -/
def stepped (volume : UInt8) (delta : Int16) : UInt8 :=
  let target := Int16.ofNat volume.toNat + delta
  if target < 0 then 0 else if 100 < target then 100 else target.toNatClampNeg.toUInt8

/-- Changes the volume by a step and answers the new volume; it is written only if it is another. -/
def adjustVolume (delta : Int16) : Task UInt8 :=
  holding .volume do
    let current ← readVolume
    let target := stepped current delta
    if target ≠ current then stage (.setVolume target)
    pure target

/-- The operations of the gateway. -/
inductive Operation where
  | play (track : Track)
  | resume
  | pause
  | skip
  | volume
  | setVolume (percent : UInt8)
  | adjustVolume (delta : Int16)
  | current
  | search (pattern : String) (limit : Nat)
  | lookup (id : TrackId)

/-- What a successful operation answers. -/
def Operation.Result : Operation → Type
  | .volume | .adjustVolume .. => UInt8
  | .current => Option Playback
  | .search .. => List Track
  | .lookup .. => Track
  | .play .. | .resume | .pause | .skip | .setVolume .. => Unit

/-- The steps of an operation. -/
def Operation.task (preferred : Option String) : (op : Operation) → Task op.Result
  | .play track => Gateway.play preferred track
  | .resume => Gateway.resume
  | .pause => Gateway.pause
  | .skip => Gateway.skip
  | .volume => Gateway.volume
  | .setVolume percent => Gateway.setVolume percent
  | .adjustVolume delta => Gateway.adjustVolume delta
  | .current => Gateway.current
  | .search pattern limit => Gateway.search pattern limit
  | .lookup id => Gateway.lookup id

/-! ## Running one operation at a time -/

/-- Answers the steps of a gateway operation that has the service to itself. -/
def serve {σ : Type} (backend : Backend σ) (now : Instant) :
    (a : Action) → σ → a.Answer × σ
  | .call c, s => backend.serve now c s
  | .acquire _, s => ((), s)
  | .release _, s => ((), s)

/-- Runs a gateway operation that has the service to itself. -/
def run {σ α : Type} (backend : Backend σ) (now : Instant) (task : Task α) (s : σ) :
    Except Error α × σ :=
  task.run.run (serve backend now) s

end Gateway
end Jukebox
