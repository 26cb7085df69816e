import Jukebox.Proofs.Party.Venue

/-!
# The course that a deed takes

What a deed has done with the gateway so far is its `Course`: the operations that are over, each with all that
it exchanged (`Block`), and the one under way.  Each step takes a deed further along its course as `May` says,
whatever is answered (`Made.follows`): one operation at a time, and steps of the party's own only in between.

Where a deed is to change the volume, its course says also what the change was and what observers were told of
it (`follows_stepVolume`).
-/

namespace Jukebox.Party

variable {σ α : Type} {preferred : Option String}

/-- An operation of the gateway that is over, with all that it exchanged. -/
structure Block (preferred : Option String) where
  op : Gateway.Operation
  trace : List (Exchange Gateway.interface)
  result : Except Error op.Result
  /-- The exchanges are all of the operation. -/
  whole : (op.task preferred).run.Yields trace result

/-- What a deed has done with the gateway, and what it told observers. -/
structure Course (preferred : Option String) where
  /-- The operations that are over and that exchanged anything. -/
  blocks : List (Block preferred)
  /-- The operation under way and what it exchanged so far. -/
  current : Option (Gateway.Operation × List (Exchange Gateway.interface))
  told : List Occurrence

namespace Course

/-- Nothing is done yet. -/
def start : Course preferred :=
  ⟨[], none, []⟩

/-- The operation has exchanged so much. -/
def At (c : Course preferred) (op : Gateway.Operation) (t : List (Exchange Gateway.interface)) : Prop :=
  c.current = if t.isEmpty then none else some (op, t)

/-- The course while an operation is under way that has exchanged so much. -/
def within (c : Course preferred) (op : Gateway.Operation) (t : List (Exchange Gateway.interface)) :
    Course preferred :=
  { c with current := some (op, t) }

/-- The course after an operation that exchanged anything. -/
def closed (c : Course preferred) (b : Block preferred) : Course preferred :=
  { c with blocks := c.blocks ++ [b], current := none }

end Course

/-- The operation may have exchanged so much when it is not over yet. -/
def Unfinished (preferred : Option String) (op : Gateway.Operation)
    (t : List (Exchange Gateway.interface)) : Prop :=
  ∃ u r, u ≠ [] ∧ (op.task preferred).run.Yields (t ++ u) r

/-- How a step takes a deed along its course. -/
inductive May : Course preferred → Exchange interface → Course preferred → Prop
  /-- A step of the party's own, between operations. -/
  | own {c : Course preferred} {x : Exchange interface} (hx : Own x.request) (hc : c.current = none) :
      May c x { c with told := c.told ++ (toldIn x).toList }
  /-- A step of an operation that goes on. -/
  | inside {c : Course preferred} {op : Gateway.Operation} {t : List (Exchange Gateway.interface)}
      {y : Exchange Gateway.interface} (hc : c.At op t) (hop : Unfinished preferred op (t ++ [y])) :
      May c (atGateway y) (c.within op (t ++ [y]))
  /-- The last step of an operation. -/
  | last {c : Course preferred} {b : Block preferred} {t : List (Exchange Gateway.interface)}
      {y : Exchange Gateway.interface} (hc : c.At b.op t) (hb : b.trace = t ++ [y]) :
      May c (atGateway y) (c.closed b)

/-! ## Operations -/

/-- Every step of an operation can be answered. -/
instance (a : Gateway.interface.Request) : Nonempty (Gateway.interface.Answer a) :=
  match a with
  | .call _ => ⟨(.error default : Except Error _)⟩
  | .acquire _ | .release _ => ⟨()⟩

/-- The operation is over, with this result. -/
def Over (op : Gateway.Operation) (c c' : Course preferred) (r : Except Error op.Result) : Prop :=
  (c' = c ∧ (op.task preferred).run.Yields [] r) ∨ ∃ t h, c' = c.closed ⟨op, t, r, h⟩

theorem follows_operate (op : Gateway.Operation) {c : Course preferred} (hc : c.current = none) :
    (gateway (op.task preferred)).run.Follows May (Over op c) c := by
  -- What is left of an operation that goes on follows from where the operation is.
  have hrest : ∀ (q : Program Gateway.interface (Except Error op.Result))
      (t : List (Exchange Gateway.interface)), (op.task preferred).run.Leads t q →
      (∀ r, q = .done r → t = []) → ∀ c' : Course preferred, c'.At op t →
      (∀ b, c'.closed b = c.closed b) → (t = [] → c' = c) →
      (q.interpret (J := interface) fun a => step (.gateway a)).Follows May (Over op c) c' := by
    intro q
    induction q with
    | done r =>
      intro t hlead hdone c' _ _ hstart
      obtain rfl := hdone r rfl
      exact Or.inl ⟨hstart rfl, Program.leads_done.1 hlead⟩
    | ask a next ih =>
      intro t hlead _ c' hat hover _ x
      have hnext := hlead.snoc x
      cases hq : next x with
      | done r =>
        rw [hq] at hnext
        refine ⟨_, .last (b := ⟨op, _, r, Program.leads_done.1 hnext⟩) (y := ⟨a, x⟩) hat rfl, ?_⟩
        show Program.Follows May (Over op c) ((next x).interpret _) _
        rw [hq]
        exact Or.inr ⟨_, _, hover _⟩
      | ask a' next' =>
        have hunfinished : Unfinished preferred op (t ++ [⟨a, x⟩]) := by
          rw [hq] at hnext
          obtain ⟨u, r, hu⟩ := Program.exists_yields (.ask a' next')
          refine ⟨u, r, ?_, hnext.yields hu⟩
          rintro rfl
          cases hu
        refine ⟨_, .inside (y := ⟨a, x⟩) hat hunfinished, ?_⟩
        refine ih x (t ++ [⟨a, x⟩]) hnext (fun r hr => ?_) _ ?_ hover ?_
        · rw [hq] at hr
          cases hr
        · simp [Course.At, Course.within]
        · simp
  exact hrest _ [] (.nil _) (fun _ _ => rfl) c (by simp [Course.At, hc]) (fun _ => rfl) fun _ => rfl

theorem Over.current {op : Gateway.Operation} {c c' : Course preferred} {r : Except Error op.Result}
    (h : Over op c c' r) (hc : c.current = none) : c'.current = none := by
  rcases h with ⟨rfl, -⟩ | ⟨t, h, rfl⟩
  · exact hc
  · rfl

/-! ## Deeds -/

/-- A step of the party's own. -/
theorem follows_step {a : Action} (ha : Own a) {c : Course preferred} (hc : c.current = none) :
    (step a).Follows May
      (fun c' x => c' = { c with told := c.told ++ (toldIn ⟨a, x⟩).toList }) c :=
  Program.follows_request fun _ => ⟨_, .own ha hc, rfl⟩

/-- Deeds go along their courses, and no operation is under way when they end. -/
theorem Made.follows {steps : Action → Prop} {q : Program interface α} (h : Made preferred steps q)
    {c : Course preferred} (hc : c.current = none) :
    q.Follows May (fun c' _ => c'.current = none) c := by
  induction h generalizing c with
  | pure a => exact Program.follows_pure hc
  | step hown _ =>
    refine (follows_step hown hc).mono fun c' _ heq => ?_
    rw [heq]
    exact hc
  | operate op => exact (follows_operate op hc).mono fun c' r hover => hover.current hc
  | bind _ _ ihq ihf => exact (ihq hc).bind fun c' a hc' => ihf a hc'

/-- The step by which a guest changes the volume, if that is what is asked for. -/
def volumeDelta? (rules : Rules) : Control → Option Int16
  | .volumeUp => some (Int16.ofNat rules.volumeStep.toNat)
  | .volumeDown => some (-Int16.ofNat rules.volumeStep.toNat)
  | _ => none

/-- How a change of the volume ends: it was refused, or one operation made it, and observers were told of its
result. -/
inductive Settled (delta : Int16) (c : Course preferred) : Except Error Unit → Prop
  | refused {e : Error} (hblocks : c.blocks = []) (htold : c.told = []) : Settled delta c (.error e)
  | failed {e : Error} {t : List (Exchange Gateway.interface)}
      {h : ((Gateway.Operation.adjustVolume delta).task preferred).run.Yields t (.error e)}
      (hblocks : c.blocks = [⟨.adjustVolume delta, t, .error e, h⟩]) (htold : c.told = []) :
      Settled delta c (.error e)
  | changed {volume : UInt8} {t : List (Exchange Gateway.interface)}
      {h : ((Gateway.Operation.adjustVolume delta).task preferred).run.Yields t
        (.ok volume : Except Error UInt8)}
      (hblocks : c.blocks = [⟨.adjustVolume delta, t, (.ok volume : Except Error UInt8), h⟩])
      (htold : c.told = [.volumeChanged volume]) : Settled delta c (.ok ())

theorem not_yields_nil_adjustVolume {delta : Int16} {r : Except Error UInt8} :
    ¬ (Gateway.adjustVolume delta).run.Yields [] r := by
  intro h
  obtain ⟨t, -, ht⟩ := Gateway.yields_holding h
  cases ht

theorem follows_stepVolume {delta : Int16} :
    (stepVolume delta).run.Follows May
      (fun c r => c.current = none ∧ Settled delta c r) (Course.start : Course preferred) := by
  refine (follows_operate (.adjustVolume delta) rfl).bind_run (fun c volume hover => ?_) fun c e hover => ?_
  · rcases hover with ⟨-, hnil⟩ | ⟨t, h, rfl⟩
    · exact absurd hnil not_yields_nil_adjustVolume
    · refine Program.Follows.bind (follows_step (a := .publish (.volumeChanged volume)) trivial rfl)
        fun c' _ heq => ?_
      refine Program.follows_pure ?_
      rw [heq]
      exact ⟨rfl, .changed rfl rfl⟩
  · rcases hover with ⟨-, hnil⟩ | ⟨t, h, rfl⟩
    · exact absurd hnil not_yields_nil_adjustVolume
    · exact ⟨rfl, .failed rfl rfl⟩

theorem follows_control {rules : Rules} {session : SessionId} {action : Control} {delta : Int16}
    (hdelta : volumeDelta? rules action = some delta) :
    (control rules session action).run.Follows May
      (fun c r => c.current = none ∧ Settled delta c r) (Course.start : Course preferred) := by
  have hfind : (findSession session).run.Follows May
      (fun c' _ => c' = Course.start) (Course.start : Course preferred) :=
    follows_step (a := .findSession session) trivial rfl
  have hadmin : ∀ (found : Session) (what : String), (requireAdmin found what).run.Follows May
      (fun c' _ => c' = Course.start) (Course.start : Course preferred) := by
    intro found what
    unfold requireAdmin
    split <;> exact Program.follows_pure rfl
  refine hfind.bind_run (fun c found hc => ?_) fun c e hc => ?_
  · subst hc
    refine (hadmin found _).bind_run (fun c _ hc => ?_) fun c e hc => ?_
    · subst hc
      cases action with
      | volumeUp | volumeDown =>
        cases hdelta
        exact follows_stepVolume
      | _ => cases hdelta
    · subst hc
      exact ⟨rfl, .refused rfl rfl⟩
  · subst hc
    exact ⟨rfl, .refused rfl rfl⟩

/-- Where the course of a deed ends. -/
def Deed.Ended (rules : Rules) : (d : Deed σ) → Course rules.preferredDevice → d.Result → Prop
  | .request (.control _ action), c, r =>
    c.current = none ∧ ∀ delta, volumeDelta? rules action = some delta → Settled delta c r
  | .operate op, c, r => c.current = none ∧ Over op Course.start c r
  | _, c, _ => c.current = none

theorem Deed.follows {p : Party σ} {rules : Rules} (hp : p.rules = rules) (d : Deed σ) :
    (d.program p).Follows May (d.Ended rules) (Course.start : Course rules.preferredDevice) := by
  subst hp
  have hmade := (d.made_program p).follows (c := Course.start) rfl
  cases d with
  | operate op =>
    exact (follows_operate op rfl).mono fun c r hover => ⟨hover.current rfl, hover⟩
  | request r =>
    cases r with
    | control session action =>
      cases hdelta : volumeDelta? p.rules action with
      | none =>
        refine hmade.mono fun c r hc => ⟨hc, fun delta h => ?_⟩
        rw [hdelta] at h
        cases h
      | some delta =>
        refine Program.Follows.mono (follows_control hdelta) fun c r hc => ⟨hc.1, fun delta' h => ?_⟩
        rw [hdelta] at h
        cases h
        exact hc.2
    | _ => exact hmade
  | _ => exact hmade

end Jukebox.Party
