import Jukebox.Proofs.Gateway.Play
import Jukebox.Proofs.Gateway.Volume

/-!
# What gateway operations are made of

Every operation is made of stages and of steps that take or give back a lock (`Made`), and what its stages
are for is fixed by the operation (`made_task`).  So a property of programs that holds of these parts, and
passes to a program from its parts, holds of all operations.  In particular only `play` asks the service
to start a track (`startedIn_task`).

An operation that needs a lock takes it first and gives it back last (`Operation.form`, `yields_task`).
In between it works carefully: it goes on only while its stages succeed (`Operation.works`).
-/

namespace Jukebox.Gateway

/-- A program made of stages for some calls. -/
inductive Calling (calls : Call → Prop) : {α : Type} → Program interface α → Prop
  | pure {α : Type} (a : α) : Calling calls (pure a : Program interface α)
  | stage {c : Call} (hc : calls c) : Calling calls (stage c).run
  | bind {α β : Type} {q : Program interface α} {f : α → Program interface β} :
      Calling calls q → (∀ a, Calling calls (f a)) → Calling calls (q >>= f)

/-- A program made of stages for some calls, and of steps that take or give back a lock. -/
inductive Made (calls : Call → Prop) : {α : Type} → Program interface α → Prop
  | pure {α : Type} (a : α) : Made calls (pure a : Program interface α)
  | stage {c : Call} (hc : calls c) : Made calls (stage c).run
  | acquire (lock : Lock) : Made calls (Program.request (I := interface) (.acquire lock))
  | release (lock : Lock) : Made calls (Program.request (I := interface) (.release lock))
  | bind {α β : Type} {q : Program interface α} {f : α → Program interface β} :
      Made calls q → (∀ a, Made calls (f a)) → Made calls (q >>= f)

namespace Calling

variable {calls : Call → Prop} {α β : Type}

theorem bind_run {x : Task α} {f : α → Task β} (hx : Calling calls x.run)
    (hf : ∀ a, Calling calls (f a).run) : Calling calls (x >>= f).run := by
  rw [ExceptT.run_bind]
  refine hx.bind fun r => ?_
  cases r with
  | ok a => exact hf a
  | error e => exact .pure _

theorem made {q : Program interface α} (h : Calling calls q) : Made calls q := by
  induction h with
  | pure a => exact .pure a
  | stage hc => exact .stage hc
  | bind _ _ ihq ihf => exact .bind ihq ihf

end Calling

/-- A task made of stages for some calls that goes on only after success, and that never says by itself
that credentials expired. -/
inductive Careful (calls : Call → Prop) : {α : Type} → Task α → Prop
  | pure {α : Type} (a : α) : Careful calls (pure a : Task α)
  | refuse {α : Type} {e : Error} (h : e.isCredentialExpired = false) :
      Careful calls (throw e : Task α)
  | stage {c : Call} (own : c ≠ .refresh) (hc : calls c) : Careful calls (stage c)
  | bind {α β : Type} {x : Task α} {f : α → Task β} :
      Careful calls x → (∀ a, Careful calls (f a)) → Careful calls (x >>= f)

namespace Careful

variable {calls : Call → Prop} {α : Type}

theorem ite {c : Prop} [Decidable c] {x y : Task α} (hx : Careful calls x) (hy : Careful calls y) :
    Careful calls (if c then x else y) := by
  split
  · exact hx
  · exact hy

theorem ofExcept {r : Except Error α} (h : ∀ e, r = .error e → e.isCredentialExpired = false) :
    Careful calls (ofExcept r : Task α) := by
  cases r with
  | ok a => exact .pure a
  | error e => exact .refuse (h e rfl)

theorem readVolume (h : calls .volume) : Careful calls readVolume := by
  refine .bind (.stage nofun h) fun volume => ?_
  split
  · exact .pure _
  · exact .refuse rfl

theorem calling {x : Task α} (h : Careful calls x) : Calling calls x.run := by
  induction h with
  | pure a => exact .pure _
  | refuse => exact .pure _
  | stage _ hc => exact .stage hc
  | bind _ _ ihx ihf => exact .bind_run ihx ihf

end Careful

theorem Made.holding {calls : Call → Prop} {α : Type} {lock : Lock} {body : Task α}
    (h : Made calls body.run) : Made calls (holding lock body).run :=
  .bind (.acquire lock) fun _ => h.bind fun _ => .bind (.release lock) fun _ => .pure _

/-- The lock that an operation holds for its whole length. -/
def Operation.lock? : Operation → Option Lock
  | .play _ | .resume | .pause | .skip => some .transport
  | .volume | .setVolume _ | .adjustVolume _ => some .volume
  | .current | .search .. | .lookup _ => none

/-- What the stages of an operation are for. -/
def Operation.Calls : Operation → Call → Prop
  | .play track, c =>
    c = .devices ∨ c = .current ∨ (∃ device, c = .transfer device) ∨ ∃ device, c = .start track.id device
  | .resume, c => c = .current ∨ c = .resume
  | .pause, c => c = .current ∨ c = .pause
  | .skip, c => c = .skip
  | .volume, c => c = .volume
  | .setVolume percent, c => c = .setVolume percent ∧ percent ≤ 100
  | .adjustVolume _, c => c = .volume ∨ ∃ percent, c = .setVolume percent ∧ percent ≤ 100
  | .current, c => c = .current
  | .search pattern limit, c => c = .search pattern limit
  | .lookup id, c => c = .lookup id

/-- How an operation is built: it holds its lock around all that it does, it needs none, or it is refused
before it does anything. -/
inductive Operation.Form (preferred : Option String) (op : Operation) : Prop
  | held {lock : Lock} {body : Task op.Result} (hlock : op.lock? = some lock)
      (htask : op.task preferred = holding lock body) (hbody : Calling op.Calls body.run)
  | free (hlock : op.lock? = none) (htask : Calling op.Calls (op.task preferred).run)
  | refused {e : Error} (htask : op.task preferred = throw e)

/-- An operation does its work carefully: behind its lock, without one, or not at all. -/
inductive Operation.Works (preferred : Option String) (op : Operation) : Prop
  | held {lock : Lock} {body : Task op.Result} (hlock : op.lock? = some lock)
      (htask : op.task preferred = holding lock body) (hbody : Careful op.Calls body)
  | free (hlock : op.lock? = none) (htask : Careful op.Calls (op.task preferred))
  | refused {e : Error} (htask : op.task preferred = throw e) (h : e.isCredentialExpired = false)

theorem Operation.works (op : Operation) (preferred : Option String) : op.Works preferred := by
  cases op with
  | current | search | lookup => exact .free rfl (.stage nofun rfl)
  | skip => exact .held rfl rfl (.stage nofun rfl)
  | volume => exact .held rfl rfl (.readVolume rfl)
  | play track =>
    refine .held rfl rfl (.bind (.stage nofun (Or.inl rfl)) fun devices => ?_)
    refine .bind (.ofExcept fun e he => by rw [select_error he]; rfl) fun device => ?_
    refine .bind (.stage nofun (Or.inr (Or.inl rfl))) fun playback => ?_
    have hstart : Careful (Operation.play track).Calls (stage (.start track.id device)) :=
      .stage nofun (Or.inr (Or.inr (Or.inr ⟨device, rfl⟩)))
    cases playback with
    | none => exact .bind (.stage nofun (Or.inr (Or.inr (Or.inl ⟨device, rfl⟩)))) fun _ => hstart
    | some playback => exact hstart
  | resume =>
    refine .held rfl rfl (.bind (.stage nofun (Or.inl rfl)) fun playback => ?_)
    split
    · exact .refuse rfl
    · exact .ite (.pure _) (.stage nofun (Or.inr rfl))
  | pause =>
    refine .held rfl rfl (.bind (.stage nofun (Or.inl rfl)) fun playback => ?_)
    split
    · exact .pure _
    · exact .ite (.stage nofun (Or.inr rfl)) (.pure _)
  | setVolume percent =>
    by_cases hpercent : percent ≤ 100
    · exact .held rfl (if_pos hpercent) (.stage nofun ⟨rfl, hpercent⟩)
    · exact .refused (if_neg hpercent) rfl
  | adjustVolume delta =>
    refine .held rfl rfl (.bind (.readVolume (Or.inl rfl)) fun current => ?_)
    dsimp only
    split
    · exact .bind (.stage nofun (Or.inr ⟨_, rfl, stepped_le current delta⟩)) fun _ => .pure _
    · exact .pure _

theorem Operation.form (op : Operation) (preferred : Option String) : op.Form preferred := by
  cases op.works preferred with
  | held hlock htask hbody => exact .held hlock htask hbody.calling
  | free hlock htask => exact .free hlock htask.calling
  | refused htask => exact .refused htask

theorem made_task (op : Operation) (preferred : Option String) :
    Made op.Calls (op.task preferred).run := by
  cases op.form preferred with
  | held hlock htask hbody =>
    rw [htask]
    exact .holding hbody.made
  | free hlock htask => exact htask.made
  | refused htask =>
    rw [htask]
    exact .pure _

/-! ## What operations may ask -/

variable {allowed : Action → Prop}

theorem only_stage {c : Call} (hc : allowed (.call c)) (hr : allowed (.call .refresh)) :
    (stage c).run.Only allowed := by
  unfold stage
  rw [ExceptT.run_tryCatch]
  refine Program.Only.bind (Program.only_request hc) fun r => ?_
  cases r with
  | ok a => exact Program.only_pure _
  | error e =>
    dsimp only
    split
    · refine Program.Only.bind_run (Program.only_request hr) fun _ => ?_
      exact Program.only_request hc
    · exact Program.only_pure _

theorem Made.only {calls : Call → Prop} {α : Type} {q : Program interface α} (h : Made calls q)
    (hcalls : ∀ c, calls c → allowed (.call c)) (hrefresh : allowed (.call .refresh))
    (hlock : ∀ lock, allowed (.acquire lock) ∧ allowed (.release lock)) : q.Only allowed := by
  induction h with
  | pure a => exact Program.only_pure a
  | stage hc => exact only_stage (hcalls _ hc) hrefresh
  | acquire lock => exact Program.only_request (hlock lock).1
  | release lock => exact Program.only_request (hlock lock).2
  | bind _ _ ihq ihf => exact ihq.bind ihf

theorem Calling.only {calls : Call → Prop} {α : Type} {q : Program interface α} (h : Calling calls q)
    (hcalls : ∀ c, calls c → allowed (.call c)) (hrefresh : allowed (.call .refresh)) :
    q.Only allowed := by
  induction h with
  | pure a => exact Program.only_pure a
  | stage hc => exact only_stage (hcalls _ hc) hrefresh
  | bind _ _ ihq ihf => exact ihq.bind ihf

/-- A call that an operation makes. -/
def Operation.Asks (op : Operation) (a : Action) : Prop :=
  ∃ c, a = .call c ∧ (op.Calls c ∨ c = .refresh)

/-- An operation that needs a lock holds it around all of its calls, if it makes any. -/
theorem yields_task {op : Operation} {preferred : Option String} {t : List (Exchange interface)}
    {r : Except Error op.Result} (h : (op.task preferred).run.Yields t r) :
    (∃ lock u, op.lock? = some lock ∧ t = ⟨.acquire lock, ()⟩ :: (u ++ [⟨.release lock, ()⟩]) ∧
      ∀ x ∈ u, op.Asks x.request) ∨
    ((op.lock? = none ∨ t = []) ∧ ∀ x ∈ t, op.Asks x.request) := by
  have honly : ∀ {β : Type} {q : Program interface β}, Calling op.Calls q → q.Only op.Asks :=
    fun hq => hq.only (fun c hc => ⟨c, rfl, Or.inl hc⟩) ⟨.refresh, rfl, Or.inr rfl⟩
  cases op.form preferred with
  | held hlock htask hbody =>
    rw [htask] at h
    obtain ⟨u, hu, rfl⟩ := yields_holding h
    exact Or.inl ⟨_, u, hlock, rfl, (honly hbody).yields hu⟩
  | free hlock htask => exact Or.inr ⟨Or.inl hlock, (honly htask).yields h⟩
  | refused htask =>
    rw [htask] at h
    obtain ⟨rfl, -⟩ := Program.yields_pure.1 h
    exact Or.inr ⟨Or.inr rfl, by simp⟩

/-- A step that is not a request to start a track. -/
def NoStart (a : Action) : Prop :=
  ∀ id device, a ≠ .call (.start id device)

/-- Only playing a track may start one. -/
theorem only_noStart_task {op : Operation} {preferred : Option String}
    (hop : ∀ track, op ≠ .play track) : (op.task preferred).run.Only NoStart := by
  refine (made_task op preferred).only (fun c hc id device heq => ?_) (fun _ _ => nofun)
    fun lock => ⟨fun _ _ => nofun, fun _ _ => nofun⟩
  obtain rfl : c = .start id device := Action.call.inj heq
  cases op with
  | play track => exact absurd rfl (hop track)
  | resume | pause | setVolume | adjustVolume => simp [Operation.Calls] at hc
  | _ => cases hc

theorem startedIn_task {op : Operation} {preferred : Option String}
    (hop : ∀ track, op ≠ .play track) {t : List (Exchange interface)} {r : Except Error op.Result}
    (h : (op.task preferred).run.Yields t r) : t.filterMap startedIn = [] := by
  rw [List.filterMap_eq_nil_iff]
  intro x hx
  have hno := (only_noStart_task hop).yields h x hx
  obtain ⟨a, x⟩ := x
  cases a with
  | call c =>
    cases c with
    | start id device => exact absurd rfl (hno id device)
    | _ => rfl
  | acquire | release => rfl

end Jukebox.Gateway
