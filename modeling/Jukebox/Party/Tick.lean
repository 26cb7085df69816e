import Jukebox.Party.Action

/-!
The scheduler's tick: one look at what is playing, and what follows from it.

The scheduler goes from `idle` to `playNextSong` when a track waits and nothing plays, on to
`checkPlaying` once the track is handed to the playback service, and to `playing` once it is reported.
At the track's end it goes back to `playNextSong`.  A failed poll leaves everything as it is.
-/

namespace Jukebox.Party

/-- Looks at the scheduler's memory. -/
def readMemory : Program interface Scheduler.Memory :=
  step .readMemory

/-- Changes the scheduler's memory. -/
def updateMemory (change : Scheduler.Memory → Scheduler.Memory) : Program interface Unit :=
  step (.updateMemory change)

/-- Asks what is playing and records the answer. -/
def poll : Task (Option Playback) :=
  ExceptT.mk do
    let result ← (gateway Gateway.current).run
    let now ← step .readTime
    updateMemory (·.polled result now)
    match result with
    | .ok playback => commit (.setNowPlaying playback)
    | .error _ => pure ()
    pure result

/-- Goes to a state and tells observers, if it is another one. -/
def enter (next : Scheduler.State) : Program interface Unit := do
  let memory ← readMemory
  updateMemory ({ · with state := next })
  if memory.state ≠ next then
    step (.publish (.schedulerStateChanged memory.state next))

/--
Takes the best entry off and hands it to the playback service.  If that fails, the entry goes back to
its queue, unless the service will never play the track.
-/
def nextTrack (preferred : Option String) : Task (Option Track) :=
  ExceptT.mk do
    match (← commit .pop : Option Queue.Popped) with
    | none => pure (.ok none)
    | some popped =>
      let track := popped.entry.track
      match (← (gateway (Gateway.play preferred track)).run : Except Error Unit) with
      | .ok () =>
        updateMemory (·.requesting track)
        step (.publish (.trackStarted track.id track.title track.artist))
        pure (.ok (some track))
      | .error e =>
        if e.isTransient then
          let _ ← commit (.restore popped)
        pure (.error e)

/-- In `playNextSong`: tries to start the best entry. -/
def whenPlayNextSong (preferred : Option String) : Program interface Scheduler.State := do
  match (← (nextTrack preferred).run : Except Error (Option Track)) with
  | .ok (some _) => pure .checkPlaying
  | .ok none => pure .idle
  | .error _ => pure .playNextSong

/-- In `idle`: a queued track is to be played once nothing else plays. -/
def whenIdle : Task Scheduler.State := do
  let playback ← poll
  if playback.any (·.isPlaying) then pure .idle
  else do
    let s ← step .readStore
    pure (if (s : Queue.Store).isEmpty then .idle else .playNextSong)

/-- In `checkPlaying`: the started track is awaited for a limited number of polls. -/
def whenCheckPlaying (checkAttempts : UInt32) : Task Scheduler.State := do
  let playback ← poll
  let memory ← readMemory
  match memory.requested, playback with
  | some track, some p =>
    if Scheduler.isConfirmed track p then do
      updateMemory ({ · with attempts := 0, lastProgress := p.progress })
      pure .playing
    else missing memory
  | _, _ => missing memory
where
  /-- The track is not reported: counts the poll and gives up after the last. -/
  missing (memory : Scheduler.Memory) : Task Scheduler.State := do
    let attempts := memory.attempts + 1
    if checkAttempts ≤ attempts then do
      updateMemory ({ · with attempts := 0, requested := none })
      pure .idle
    else do
      updateMemory ({ · with attempts := attempts })
      pure .checkPlaying

/-- In `playing`: the end of the track is awaited. -/
def whenPlaying (threshold : UInt64) : Task Scheduler.State := do
  let playback ← poll
  let memory ← readMemory
  match memory.requested, playback with
  | some track, some p =>
    if p.id = track.id then updateMemory ({ · with lastProgress := p.progress })
  | _, _ => pure ()
  if Scheduler.isFinished memory.requested playback memory.lastProgress threshold then
    pure .playNextSong
  else pure .playing

/-- One tick.  A track that can be started is started in the tick in which that becomes known. -/
def tick (settings : Scheduler.Settings) (preferred : Option String) : Task Scheduler.State := do
  let current := (← readMemory : Scheduler.Memory).state
  let next ← match current with
    | .idle => whenIdle
    | .playNextSong => whenPlayNextSong preferred
    | .checkPlaying => whenCheckPlaying settings.checkAttempts
    | .playing => whenPlaying settings.endOfTrackThreshold
  enter next
  if next = .playNextSong ∧ current ≠ .playNextSong then do
    let next ← whenPlayNextSong preferred
    enter next
    pure next
  else pure next

end Jukebox.Party
