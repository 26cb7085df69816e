import Jukebox.Proofs.Gateway.Operations
import Jukebox.Proofs.Party.Steps

/-!
# What requests and ticks are made of

Every request of a guest, and every tick of the scheduler, is made of gateway operations and of steps of
the party's own (`Made`).  So a property of programs that holds of these parts, and passes to a program
from its parts, holds of all requests (`made_task`) and of ticks (`made_tick`).  Only the request for a
session creates one (`made_request`).
-/

namespace Jukebox.Party

/-- A step that does not go to the playback service. -/
def Own : Action → Prop
  | .gateway _ => False
  | _ => True

/-- A step that leaves the scheduler's memory alone and tells nothing of started tracks or states. -/
def Unnoticed : Action → Prop
  | .updateMemory _ | .publish (.trackStarted ..) | .publish (.schedulerStateChanged ..) => False
  | _ => True

/-- A step that creates no session. -/
def Ordinary : Action → Prop
  | .addSession .. => False
  | _ => True

/-- A step that leaves alone what is reported to be playing. -/
def Listening : Action → Prop
  | .store (.setNowPlaying _) => False
  | _ => True

/-- A step of a guest who has a session. -/
def Common (a : Action) : Prop :=
  Unnoticed a ∧ Ordinary a ∧ Listening a

/-- A program made of gateway operations and of steps of the party's own. -/
inductive Made (preferred : Option String) (steps : Action → Prop) :
    {α : Type} → Program interface α → Prop
  | pure {α : Type} (a : α) : Made preferred steps (pure a : Program interface α)
  | step {a : Action} (hown : Own a) (ha : steps a) : Made preferred steps (step a)
  | operate (op : Gateway.Operation) : Made preferred steps (gateway (op.task preferred)).run
  | bind {α β : Type} {q : Program interface α} {f : α → Program interface β} :
      Made preferred steps q → (∀ a, Made preferred steps (f a)) → Made preferred steps (q >>= f)

namespace Made

variable {preferred : Option String} {steps : Action → Prop} {α β : Type}

theorem bind_run {x : Task α} {f : α → Task β} (hx : Made preferred steps x.run)
    (hf : ∀ a, Made preferred steps (f a).run) : Made preferred steps (x >>= f).run := by
  rw [ExceptT.run_bind]
  refine hx.bind fun r => ?_
  cases r with
  | ok a => exact hf a
  | error e => exact .pure _

theorem lift {q : Program interface α} (h : Made preferred steps q) :
    Made preferred steps (liftM q : Task α).run :=
  h.bind fun _ => .pure _

theorem ite {c : Prop} [Decidable c] {x y : Program interface α} (hx : Made preferred steps x)
    (hy : Made preferred steps y) : Made preferred steps (if c then x else y) := by
  split
  · exact hx
  · exact hy

theorem commit {op : Queue.Store.Operation} (hop : steps (.store op))
    (hpublish : ∀ change, steps (.publish (.queueChanged change))) :
    Made preferred steps (commit op) := by
  refine .bind (.step trivial hop) fun outcome => ?_
  obtain ⟨reply, change⟩ := outcome
  cases change with
  | none => exact .pure _
  | some change => exact .bind (.step trivial (hpublish change)) fun _ => .pure _

theorem mono {steps' : Action → Prop} {q : Program interface α} (h : Made preferred steps q)
    (hsteps : ∀ a, steps a → steps' a) : Made preferred steps' q := by
  induction h with
  | pure a => exact .pure a
  | step hown ha => exact .step hown (hsteps _ ha)
  | operate op => exact .operate op
  | bind _ _ ihq ihf => exact .bind ihq ihf

end Made

section
variable {preferred : Option String} {steps allowed : Action → Prop} {α : Type}

theorem only_gateway {task : Gateway.Task α} (h : ∀ a, allowed (.gateway a)) :
    (gateway task).run.Only allowed := by
  have hq : ∀ q : Program Gateway.interface (Except Error α),
      (q.interpret (J := interface) fun a => step (.gateway a)).Only allowed := by
    intro q
    induction q with
    | done a => trivial
    | ask a next ih => exact ⟨h a, fun x => ih x⟩
  exact hq task.run

theorem Made.only {q : Program interface α} (h : Made preferred steps q)
    (hgateway : ∀ a, allowed (.gateway a)) (hsteps : ∀ a, steps a → allowed a) :
    q.Only allowed := by
  induction h with
  | pure a => exact Program.only_pure a
  | step _ ha => exact Program.only_request (hsteps _ ha)
  | operate op => exact only_gateway hgateway
  | bind _ _ ihq ihf => exact ihq.bind ihf

end

/-! ## Requests -/

section
variable {preferred : Option String}

theorem made_findSession {id : SessionId} : Made preferred Common (findSession id).run :=
  .step trivial ⟨trivial, trivial, trivial⟩

theorem made_requireAdmin {session : Session} {what : String} :
    Made preferred Common (requireAdmin session what).run :=
  .ite (.pure _) (.pure _)

theorem made_commit {op : Queue.Store.Operation} (hop : Listening (.store op)) :
    Made preferred Common (commit op) :=
  .commit ⟨trivial, trivial, hop⟩ fun _ => ⟨trivial, trivial, trivial⟩

theorem made_resolve {id : TrackId} : Made preferred Common (resolve id).run := by
  refine .bind_run (.lift (.step trivial ⟨trivial, trivial, trivial⟩)) fun seen => ?_
  split
  · exact .pure _
  · refine .bind_run (.operate (.lookup id)) fun track => ?_
    exact .bind_run (.lift (.step trivial ⟨trivial, trivial, trivial⟩)) fun _ => .pure _

theorem made_stepVolume {delta : Int16} : Made preferred Common (stepVolume delta).run :=
  .bind_run (.operate (.adjustVolume delta)) fun _ => .lift (.step trivial ⟨trivial, trivial, trivial⟩)

/-- No request but the one for a session creates sessions, and none has to do with the scheduler. -/
theorem made_request {rules : Rules} {r : Request}
    (hr : ∀ password nickname, r ≠ .openSession password nickname) :
    Made preferred Common (r.task rules).run := by
  cases r with
  | openSession password nickname => exact absurd rfl (hr password nickname)
  | search pattern limit =>
    have hfound : ∀ n, Made preferred Common (do
        let tracks ← gateway (Gateway.search pattern n)
        step (.rememberTracks tracks)
        pure tracks : Task (List Track)).run := by
      intro n
      refine .bind_run (.operate (.search pattern n)) fun _ => ?_
      exact .bind_run (.lift (.step trivial ⟨trivial, trivial, trivial⟩)) fun _ => .pure _
    cases limit with
    | none => exact hfound defaultLimit
    | some n => exact .ite (.bind_run (.pure _) hfound) (.bind_run (.pure _) hfound)
  | queues session =>
    refine .bind_run made_findSession fun _ => ?_
    exact .bind_run (.lift (.step trivial ⟨trivial, trivial, trivial⟩)) fun _ => .pure _
  | add session track queue =>
    have hadd : Made preferred Common (do
        let track ← resolve track
        ExceptT.mk (commit (.enqueue track queue)) : Task Unit).run :=
      .bind_run made_resolve fun _ => made_commit trivial
    refine .bind_run made_findSession fun session => ?_
    exact .ite (.bind_run made_requireAdmin fun _ => hadd) hadd
  | vote session track up =>
    exact .bind_run made_findSession fun _ => made_commit trivial
  | control session action =>
    refine .bind_run made_findSession fun _ => ?_
    refine .bind_run made_requireAdmin fun _ => ?_
    cases action with
    | play => exact .operate .resume
    | pause | stop => exact .operate .pause
    | skip => exact .operate .skip
    | volumeUp | volumeDown => exact made_stepVolume
  | remove session track =>
    refine .bind_run made_findSession fun _ => ?_
    refine .bind_run made_requireAdmin fun _ => ?_
    exact .bind_run (made_commit trivial) fun _ => .pure _
  | move session track queue =>
    refine .bind_run made_findSession fun _ => ?_
    exact .bind_run made_requireAdmin fun _ => made_commit trivial

/-- No request of a guest has to do with the scheduler or with what is playing. -/
theorem made_task {rules : Rules} (r : Request) :
    Made preferred (fun a => Unnoticed a ∧ Listening a) (r.task rules).run := by
  cases r with
  | openSession password nickname =>
    exact .bind_run (.lift (.step trivial ⟨trivial, trivial⟩)) fun _ => .pure _
  | _ => exact (made_request fun _ _ h => by cases h).mono fun _ h => ⟨h.1, h.2.2⟩

end

/-! ## Ticks -/

section
variable {preferred : Option String}

theorem made_tickCommit {op : Queue.Store.Operation} : Made preferred Ordinary (commit op) :=
  .commit trivial fun _ => trivial

theorem made_poll : Made preferred Ordinary poll.run := by
  refine .bind (.operate .current) fun result => ?_
  refine .bind (.step trivial trivial) fun now => ?_
  refine .bind (.step trivial trivial) fun _ => ?_
  cases result with
  | ok playback => exact .bind made_tickCommit fun _ => .pure _
  | error e => exact .pure _

theorem made_enter {next : Scheduler.State} : Made preferred Ordinary (enter next) := by
  refine .bind (.step trivial trivial) fun memory => ?_
  exact .bind (.step trivial trivial) fun _ => .ite (.step trivial trivial) (.pure _)

theorem made_nextTrack : Made preferred Ordinary (nextTrack preferred).run := by
  refine .bind made_tickCommit fun popped => ?_
  cases (popped : Option Queue.Popped) with
  | none => exact .pure _
  | some popped =>
    refine .bind (.operate (.play popped.entry.track)) fun r => ?_
    cases (r : Except Error Unit) with
    | ok _ =>
      refine .bind (.step trivial trivial) fun _ => ?_
      exact .bind (.step trivial trivial) fun _ => .pure _
    | error e =>
      dsimp only
      split
      · exact .bind made_tickCommit fun _ => .pure _
      · exact .pure _

theorem made_whenPlayNextSong : Made preferred Ordinary (whenPlayNextSong preferred) := by
  refine .bind made_nextTrack fun r => ?_
  split <;> exact .pure _

theorem made_whenIdle : Made preferred Ordinary whenIdle.run := by
  refine .bind_run made_poll fun playback => ?_
  refine .ite (.pure _) ?_
  exact .bind_run (.lift (.step trivial trivial)) fun _ => .pure _

theorem made_missing {checkAttempts : UInt32} {memory : Scheduler.Memory} :
    Made preferred Ordinary (whenCheckPlaying.missing checkAttempts memory).run := by
  refine .ite ?_ ?_
  · exact .bind_run (.lift (.step trivial trivial)) fun _ => .pure _
  · exact .bind_run (.lift (.step trivial trivial)) fun _ => .pure _

theorem made_whenCheckPlaying {checkAttempts : UInt32} :
    Made preferred Ordinary (whenCheckPlaying checkAttempts).run := by
  refine .bind_run made_poll fun playback => ?_
  refine .bind_run (.lift (.step trivial trivial)) fun memory => ?_
  split
  · refine .ite ?_ made_missing
    exact .bind_run (.lift (.step trivial trivial)) fun _ => .pure _
  · exact made_missing

theorem made_whenPlaying {threshold : UInt64} :
    Made preferred Ordinary (whenPlaying threshold).run := by
  refine .bind_run made_poll fun playback => ?_
  refine .bind_run (.lift (.step trivial trivial)) fun memory => ?_
  have hverdict : Made preferred Ordinary
      (if Scheduler.isFinished memory.requested playback memory.lastProgress threshold then
        pure .playNextSong
      else pure .playing : Task Scheduler.State).run := .ite (.pure _) (.pure _)
  dsimp only
  split
  · split
    · exact .bind_run (.lift (.step trivial trivial)) fun _ => hverdict
    · exact hverdict
  · exact hverdict

/-- The state found is entered, and a track that can be started is started. -/
theorem made_found {current next : Scheduler.State} :
    Made preferred Ordinary (do
      enter next
      if next = .playNextSong ∧ current ≠ .playNextSong then do
        let next ← whenPlayNextSong preferred
        enter next
        pure next
      else pure next : Task Scheduler.State).run := by
  refine .bind_run (.lift made_enter) fun _ => ?_
  refine .ite ?_ (.pure _)
  refine .bind_run (.lift made_whenPlayNextSong) fun next => ?_
  exact .bind_run (.lift made_enter) fun _ => .pure _

theorem made_tick {settings : Scheduler.Settings} :
    Made preferred Ordinary (tick settings preferred).run := by
  refine .bind_run (.lift (.step trivial trivial)) fun memory => ?_
  dsimp only
  split
  · exact .bind_run made_whenIdle fun _ => made_found
  · exact .bind_run (.lift made_whenPlayNextSong) fun _ => made_found
  · exact .bind_run made_whenCheckPlaying fun _ => made_found
  · exact .bind_run made_whenPlaying fun _ => made_found

end
end Jukebox.Party
