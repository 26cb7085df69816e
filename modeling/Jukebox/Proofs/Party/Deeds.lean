import Jukebox.Proofs.Party.Parts

/-!
# What may happen at a party

A `Deed` is a tick, a request, an operation on the queues or of the gateway, a new session, the passing
of time, or something that happens to the playback service.  Deeds come one after the other, in any
order; `afterAll` is the party after them, and `exchangesAll` is everything that was exchanged.

Only ticks change the scheduler's memory and tell of started tracks and of states (`Unnoticed`).
-/

namespace Jukebox.Party

variable {σ : Type}

/-- Something that happens at a party. -/
inductive Deed (σ : Type) where
  | tick
  | request (r : Request)
  | queue (op : Queue.Store.Operation)
  | operate (op : Gateway.Operation)
  | join (nickname : Option String) (isAdmin : Bool)
  | wait (millis : Nat)
  /-- The playback service changes by itself. -/
  | intervene (change : Instant → σ → σ)

namespace Deed

/-- The party after a deed. -/
def after (backend : Backend σ) (p : Party σ) : Deed σ → Party σ
  | .tick => (p.runTick backend).2
  | .request r => (p.request backend r).2
  | .queue op => (perform backend (commit op) p).2
  | .operate op => (p.operate backend op).2
  | .join nickname isAdmin => (perform backend (step (.addSession nickname isAdmin)) p).2
  | .wait millis => p.wait millis
  | .intervene change => { p with service := change p.clock p.service }

/-- The exchanges of a deed. -/
def exchanges (backend : Backend σ) (p : Party σ) : Deed σ → List (Exchange interface)
  | .tick => (Party.tick p.scheduling p.rules.preferredDevice).run.trace (serve backend) p
  | .request r => (r.task p.rules).run.trace (serve backend) p
  | .queue op => (commit op).trace (serve backend) p
  | .operate op => (gateway (op.task p.rules.preferredDevice)).run.trace (serve backend) p
  | .join nickname isAdmin => (step (.addSession nickname isAdmin)).trace (serve backend) p
  | .wait _ | .intervene _ => []

/-- What is answered to a deed. -/
def Result : Deed σ → Type
  | .tick => Except Error Scheduler.State
  | .request r => Except Error r.Result
  | .queue op => op.Reply
  | .operate op => Except Error op.Result
  | .join .. => Session
  | .wait _ | .intervene _ => Unit

/-- What a deed changes before any steps are made. -/
def effect (p : Party σ) : Deed σ → Party σ
  | .wait millis => p.wait millis
  | .intervene change => { p with service := change p.clock p.service }
  | _ => p

/-- The steps of a deed. -/
def program (p : Party σ) : (d : Deed σ) → Program interface d.Result
  | .tick => (Party.tick p.scheduling p.rules.preferredDevice).run
  | .request r => (r.task p.rules).run
  | .queue op => commit op
  | .operate op => (gateway (op.task p.rules.preferredDevice)).run
  | .join nickname isAdmin => step (.addSession nickname isAdmin)
  | .wait _ | .intervene _ => pure ()

/-- What is answered to a deed that is done without interruption. -/
def result (backend : Backend σ) (p : Party σ) (d : Deed σ) : d.Result :=
  (perform backend (d.program p) (d.effect p)).1

theorem after_eq (backend : Backend σ) (p : Party σ) (d : Deed σ) :
    d.after backend p = (perform backend (d.program p) (d.effect p)).2 := by
  cases d <;> rfl

theorem exchanges_eq (backend : Backend σ) (p : Party σ) (d : Deed σ) :
    d.exchanges backend p = (d.program p).trace (serve backend) (d.effect p) := by
  cases d <;> rfl

end Deed

/-- The party after all deeds. -/
def afterAll (backend : Backend σ) (p : Party σ) : List (Deed σ) → Party σ
  | [] => p
  | d :: ds => afterAll backend (d.after backend p) ds

/-- The exchanges of all deeds. -/
def exchangesAll (backend : Backend σ) (p : Party σ) : List (Deed σ) → List (Exchange interface)
  | [] => []
  | d :: ds => d.exchanges backend p ++ exchangesAll backend (d.after backend p) ds

/-! ## Deeds that go unnoticed by the scheduler -/

/-- News that are not of the scheduler. -/
def Plain : Occurrence → Prop
  | .trackStarted .. | .schedulerStateChanged .. => False
  | _ => True

/-- Any step of the party's own. -/
def AnyStep : Action → Prop :=
  fun _ => True

/-- Deeds are made of gateway operations and of steps of the party's own. -/
theorem Deed.made_program (p : Party σ) (d : Deed σ) :
    Made p.rules.preferredDevice AnyStep (d.program p) := by
  cases d with
  | tick => exact made_tick.mono fun _ _ => trivial
  | request r => exact (made_task r).mono fun _ _ => trivial
  | queue op => exact .commit trivial fun _ => trivial
  | operate op => exact .operate op
  | join nickname isAdmin => exact .step trivial trivial
  | wait | intervene => exact .pure _

theorem Deed.made_unnoticed (p : Party σ) {d : Deed σ} (hd : d ≠ .tick) :
    Made p.rules.preferredDevice Unnoticed (d.program p) := by
  cases d with
  | tick => exact absurd rfl hd
  | request r => exact (made_task r).mono fun _ => And.left
  | queue op => exact .commit trivial fun _ => trivial
  | operate op => exact .operate op
  | join nickname isAdmin => exact .step trivial trivial
  | wait | intervene => exact .pure _

/-- Only ticks and the operation for it write what is playing. -/
theorem Deed.made_listening (p : Party σ) {d : Deed σ} (hd : d ≠ .tick)
    (hqueue : ∀ playback, d ≠ .queue (.setNowPlaying playback)) :
    Made p.rules.preferredDevice Listening (d.program p) := by
  cases d with
  | tick => exact absurd rfl hd
  | request r => exact (made_task r).mono fun _ => And.right
  | queue op =>
    cases op with
    | setNowPlaying playback => exact absurd rfl (hqueue playback)
    | _ => exact .commit trivial fun _ => trivial
  | operate op => exact .operate op
  | join nickname isAdmin => exact .step trivial trivial
  | wait | intervene => exact .pure _

/-- Deeds other than those for a session create none. -/
theorem Deed.made_ordinary (p : Party σ) {d : Deed σ}
    (hrequest : ∀ password nickname, d ≠ .request (.openSession password nickname))
    (hjoin : ∀ nickname isAdmin, d ≠ .join nickname isAdmin) :
    Made p.rules.preferredDevice Ordinary (d.program p) := by
  cases d with
  | tick => exact made_tick
  | request r =>
    have hr : ∀ password nickname, r ≠ .openSession password nickname :=
      fun password nickname h => hrequest password nickname (congrArg Deed.request h)
    exact (made_request hr).mono fun _ h => h.2.1
  | queue op => exact .commit trivial fun _ => trivial
  | operate op => exact .operate op
  | join nickname isAdmin => exact absurd rfl (hjoin nickname isAdmin)
  | wait | intervene => exact .pure _

section
variable {backend : Backend σ} {p p' : Party σ} {t : List (Exchange interface)}

theorem served_unnoticed (ht : ∀ x ∈ t, Unnoticed x.request)
    (h : Program.Served (serve backend) p t p') :
    p'.memory = p.memory ∧ ∀ occurrence ∈ told t, Plain occurrence := by
  constructor
  · induction h with
    | nil p => rfl
    | @cons a p p' t _ ih =>
      obtain ⟨ha, ht⟩ := List.forall_mem_cons.1 ht
      rw [ih ht]
      cases a with
      | updateMemory change => exact ha.elim
      | _ => rfl
  · intro occurrence ho
    obtain ⟨⟨a, x⟩, hx, hsome⟩ := List.mem_filterMap.1 ho
    have ha := ht _ hx
    cases a with
    | publish o =>
      cases hsome
      cases occurrence with
      | trackStarted | schedulerStateChanged => exact ha.elim
      | queueChanged | volumeChanged => trivial
    | _ => cases hsome

theorem after_unnoticed (backend : Backend σ) (p : Party σ) {d : Deed σ} (hd : d ≠ .tick) :
    (d.after backend p).memory = p.memory ∧
      ∀ occurrence ∈ told (d.exchanges backend p), Plain occurrence := by
  have heffect : (d.effect p).memory = p.memory := by
    cases d <;> rfl
  have hends := Program.ends_run (d.program p) (serve backend) (d.effect p)
  have honly := (d.made_unnoticed p hd).only (fun _ => trivial) fun _ => id
  rw [Deed.after_eq, Deed.exchanges_eq, ← heffect]
  exact served_unnoticed (honly.yields hends.yields) hends.served

theorem ends_deed_tick (backend : Backend σ) (p : Party σ) :
    ∃ r, (tick p.scheduling p.rules.preferredDevice).run.Ends (serve backend) p
      (Deed.tick.exchanges backend p) r (Deed.tick.after backend p) :=
  ⟨_, Program.ends_run _ _ _⟩

end
end Jukebox.Party
