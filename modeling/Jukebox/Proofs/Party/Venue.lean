import Jukebox.Proofs.Party.Deeds
import Jukebox.Proofs.Scene

/-!
# The party as a venue

Deeds at a party take turns step by step, and wait for the locks of the gateway.  Unlike a `Crowd`, a venue
keeps the log of who made which step in which state, so that the course of each deed can be told.
-/

namespace Jukebox.Party

variable {σ : Type} {backend : Backend σ}

/-- The lock of the gateway that a step takes. -/
def Action.taken : Action → Option Gateway.Lock
  | .gateway (.acquire lock) => some lock
  | _ => none

/-- The lock of the gateway that a step gives back. -/
def Action.freed : Action → Option Gateway.Lock
  | .gateway (.release lock) => some lock
  | _ => none

/-- A party at which deeds take turns. -/
abbrev venue (backend : Backend σ) : Venue interface (Party σ) (Deed σ) Gateway.Lock where
  Result := Deed.Result
  effect d p := d.effect p
  program d p := d.program p
  serve := serve backend
  takes := Action.taken
  frees := Action.freed

/-- Every step can be answered. -/
instance (a : interface.Request) : Nonempty (interface.Answer a) :=
  match a with
  | .gateway (.call _) => ⟨(.error default : Except Error _)⟩
  | .gateway (.acquire _) | .gateway (.release _) => ⟨()⟩
  | .store (.enqueue ..) | .store (.vote ..) | .store (.move ..) | .store (.remove ..) =>
    ⟨((.error default : Except Error _), none)⟩
  | .store .pop => ⟨(none, none)⟩
  | .store (.restore ..) => ⟨(true, none)⟩
  | .store (.setNowPlaying ..) => ⟨((), none)⟩
  | .readStore => ⟨Queue.Store.empty⟩
  | .addSession .. => ⟨(⟨default, none, true, default⟩ : Session)⟩
  | .findSession _ => ⟨(.error default : Except Error Session)⟩
  | .recallTrack _ => ⟨(none : Option Track)⟩
  | .readMemory => ⟨Scheduler.Memory.new⟩
  | .readTime => ⟨(default : Timestamp)⟩
  | .publish _ | .rememberTracks _ | .updateMemory _ => ⟨()⟩

/-- No step changes the rules of the party or the names that it gives to sessions. -/
theorem rules_serve (backend : Backend σ) (a : Action) (p : Party σ) :
    (serve backend a p).2.rules = p.rules ∧ (serve backend a p).2.sessionNames = p.sessionNames := by
  cases a <;> exact ⟨rfl, rfl⟩

end Jukebox.Party
