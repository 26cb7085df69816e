import Jukebox.Event.Bus
import Jukebox.Party.Request
import Jukebox.Party.Tick
import Jukebox.TrackCache

/-!
A party: the queues, the guests, the scheduler and the playback service they share.

`Party.run` performs requests and ticks one after the other.
-/

namespace Jukebox

/-- A party over a playback service with state `σ`. -/
structure Party (σ : Type) where
  rules : Party.Rules
  scheduling : Scheduler.Settings
  /-- The names for sessions in the order in which they are given out. -/
  sessionNames : Nat → SessionId
  service : σ
  store : Queue.Store
  sessions : Sessions
  /-- The tracks seen in searches and lookups. -/
  cache : TrackCache
  memory : Scheduler.Memory
  bus : Bus
  /-- The number of sessions that were ever created. -/
  sessionsCreated : Nat
  /-- The steady clock. -/
  clock : Instant
  /-- The calendar clock. -/
  time : Timestamp
  /-- When the party began. -/
  startedAt : Timestamp

namespace Party

variable {σ : Type}

/-- So many events are kept for observers who are slow to read. -/
def eventCapacity : Nat :=
  256

/-- So many tracks are remembered. -/
def cacheCapacity : Nat :=
  1000

/-- A party that begins. -/
def new (rules : Rules) (scheduling : Scheduler.Settings) (sessionNames : Nat → SessionId)
    (service : σ) (time : Timestamp) : Party σ where
  rules := rules
  scheduling := scheduling
  sessionNames := sessionNames
  service := service
  store := .empty
  sessions := .empty
  cache := .new cacheCapacity
  memory := .new
  bus := .new eventCapacity
  sessionsCreated := 0
  clock := ⟨0⟩
  time := time
  startedAt := time

/-- Performs one step. -/
def serve (backend : Backend σ) : (a : Action) → Party σ → a.Answer × Party σ
  | .gateway a, p =>
    let (answer, service) := Gateway.serve backend p.clock a p.service
    (answer, { p with service := service })
  | .store op, p =>
    let outcome := p.store.apply op
    ((outcome.reply, outcome.change), { p with store := outcome.store })
  | .readStore, p => (p.store, p)
  | .addSession nickname isAdmin, p =>
    let session : Session := ⟨p.sessionNames p.sessionsCreated, nickname, isAdmin, p.time⟩
    (session, { p with
      sessions := p.sessions.insert session
      sessionsCreated := p.sessionsCreated + 1 })
  | .findSession id, p => (p.sessions.get id, p)
  | .publish occurrence, p => ((), { p with bus := p.bus.publish ⟨occurrence, p.time⟩ })
  | .recallTrack id, p => (p.cache.get? id, p)
  | .rememberTracks tracks, p => ((), { p with cache := p.cache.insertAll tracks })
  | .readMemory, p => (p.memory, p)
  | .updateMemory change, p => ((), { p with memory := change p.memory })
  | .readTime, p => (p.time, p)

/-- Performs all steps of something done at a party. -/
def perform {α : Type} (backend : Backend σ) (steps : Program interface α) (p : Party σ) :
    α × Party σ :=
  steps.run (serve backend) p

/-- Performs a task. -/
def run {α : Type} (backend : Backend σ) (task : Task α) (p : Party σ) : Except Error α × Party σ :=
  perform backend task.run p

/-- Performs a guest's request. -/
def request (backend : Backend σ) (r : Request) (p : Party σ) : Except Error r.Result × Party σ :=
  p.run backend (r.task p.rules)

/-- Performs one tick of the scheduler. -/
def runTick (backend : Backend σ) (p : Party σ) : Except Error Scheduler.State × Party σ :=
  p.run backend (tick p.scheduling p.rules.preferredDevice)

/-- Performs a gateway operation. -/
def operate (backend : Backend σ) (op : Gateway.Operation) (p : Party σ) :
    Except Error op.Result × Party σ :=
  p.run backend (gateway (op.task p.rules.preferredDevice))

/-- Lets time pass. -/
def wait (millis : Nat) (p : Party σ) : Party σ :=
  { p with clock := p.clock.advance millis }

/-- Ticks at the present time and then after each interval, so many times. -/
def ticks (backend : Backend σ) : Nat → Party σ → Party σ
  | 0, p => p
  | n + 1, p => ticks backend n ((p.runTick backend).2.wait p.scheduling.interval.toNat)

/-- The number of ticks that begin before a time is over. -/
def ticksWithin (interval millis : Nat) : Nat :=
  (millis + interval - 1) / interval

/-- Lets the scheduler run for a time: it ticks at once and then after each interval. -/
def runFor (backend : Backend σ) (millis : Nat) (p : Party σ) : Party σ :=
  let count := ticksWithin p.scheduling.interval.toNat millis
  { ticks backend count p with clock := p.clock.advance millis }

end Party
end Jukebox
