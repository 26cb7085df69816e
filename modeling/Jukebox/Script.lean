import Jukebox.Backend

/-!
A playback service that answers from a script.

For each capability the script holds answers that are given in turn; when they are used up, every call
succeeds with a plain answer.  The calls are written down.
-/

namespace Jukebox

/-- The script and the calls made so far. -/
structure Script where
  /-- The answers still to come. -/
  answers : (m : Capability) → List (Except Error m.Result)
  /-- The calls made so far, the newest first. -/
  log : List Call

namespace Script

/-- A script without answers. -/
def empty : Script :=
  ⟨fun _ => [], []⟩

/-- Adds an answer behind the others of its capability. -/
def expect (s : Script) (m : Capability) (answer : Except Error m.Result) : Script :=
  { s with answers := fun k => if h : k = m then s.answers k ++ [h ▸ answer] else s.answers k }

/-- The track that goes by a name when nothing else is known of it. -/
def plainTrack (id : TrackId) : Track :=
  ⟨id, s!"Title {id.text}", s!"Artist {id.text}", "Album", 180000, ""⟩

/-- The answer when the script has none. -/
def plainAnswer : (c : Call) → c.Result
  | .search .. => ([] : List Track)
  | .lookup id => plainTrack id
  | .current => (none : Option Playback)
  | .devices => [(⟨"d0", "Speaker", true, some 40⟩ : Device)]
  | .volume => (some 40 : Option UInt8)
  | .refresh | .transfer .. | .start .. | .resume | .pause | .skip | .setVolume .. => ()

/-- Answers a call. -/
def serve (_ : Instant) (c : Call) (s : Script) : Except Error c.Result × Script :=
  let s := { s with log := c :: s.log }
  match s.answers c.capability with
  | [] => (.ok (plainAnswer c), s)
  | answer :: rest =>
    (answer, { s with answers := fun k => if h : k = c.capability then h ▸ rest else s.answers k })

/-- The script as a backend; every call waits for its answer. -/
def backend : Backend Script where
  name _ := "scripted"
  suspends _ := true
  serve := serve

end Script
end Jukebox
