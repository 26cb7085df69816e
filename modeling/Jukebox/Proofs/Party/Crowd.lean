import Jukebox.Proofs.Party.Deeds
import Jukebox.Proofs.Queue.Conservation
import Jukebox.Script

/-!
# Deeds that take turns

At a `Crowd` any number of deeds are under way at the same time.  In a `Turn` a new deed begins, or one
that is under way takes a single step and is suspended again: before and after every operation on the
queues, before and after every call to the playback service, and everywhere else.  No lock is waited for
here, so the orders of turns include all those that the locks of the gateway allow.

Whatever the order, the queues see the operations one after the other (`served_run`), so what comes in
goes out once (`entries_conserved`).
-/

namespace Jukebox.Party

open Queue.Store (Operation enqueued restored removed popped attempts Undisturbed)

variable {σ : Type} {backend : Backend σ}

/-- A deed under way and what is left of it. -/
structure Pending (σ : Type) where
  deed : Deed σ
  rest : Program interface deed.Result

/-- A party and the deeds under way at it. -/
structure Crowd (σ : Type) where
  party : Party σ
  pending : List (Pending σ)

/-- What happens next at a crowd. -/
inductive Turn (σ : Type) where
  /-- A deed begins. -/
  | begin (d : Deed σ)
  /-- The deed of this number takes one step, if there is one left. -/
  | proceed (who : Nat)

/-- The operation on the queues that was performed in an exchange. -/
def operationIn : Exchange interface → Option (Exchange Queue.Store.interface)
  | ⟨.store op, x⟩ => some ⟨op, x.1⟩
  | _ => none

/-- The operations on the queues among some exchanges, in order. -/
def operations (t : List (Exchange interface)) : List (Exchange Queue.Store.interface) :=
  t.filterMap operationIn

namespace Crowd

/-- Nothing is under way. -/
def idle (p : Party σ) : Crowd σ :=
  ⟨p, []⟩

/-- The exchanges of one turn, and what it leads to. -/
def turn (backend : Backend σ) (c : Crowd σ) : Turn σ → List (Exchange interface) × Crowd σ
  | .begin d => ([], ⟨d.effect c.party, c.pending ++ [⟨d, d.program c.party⟩]⟩)
  | .proceed who =>
    match c.pending[who]? with
    | some ⟨d, .ask a next⟩ =>
      let (answer, party) := serve backend a c.party
      ([⟨a, answer⟩], ⟨party, c.pending.set who ⟨d, next answer⟩⟩)
    | _ => ([], c)

/-- The exchanges of all turns in their order, and what they lead to. -/
def run (backend : Backend σ) (c : Crowd σ) : List (Turn σ) → List (Exchange interface) × Crowd σ
  | [] => ([], c)
  | turn :: turns =>
    let (t, c) := c.turn backend turn
    let (u, c) := c.run backend turns
    (t ++ u, c)

/-! ## The order of operations -/

/-- A step at a party performs at most one operation on the queues. -/
theorem served_step (a : Action) (p : Party σ) :
    Program.Served Queue.Store.serve p.store (operations [⟨a, (serve backend a p).1⟩])
      (serve backend a p).2.store := by
  cases a with
  | store op => exact .cons (.nil _)
  | _ => exact .nil _

theorem store_effect (d : Deed σ) (p : Party σ) : (d.effect p).store = p.store := by
  cases d <;> rfl

theorem served_turn (c : Crowd σ) (turn : Turn σ) :
    Program.Served Queue.Store.serve c.party.store (operations (c.turn backend turn).1)
      (c.turn backend turn).2.party.store := by
  cases turn with
  | begin d =>
    show Program.Served _ _ [] (d.effect c.party).store
    rw [store_effect]
    exact .nil _
  | proceed who =>
    unfold Crowd.turn
    dsimp only
    split
    · exact served_step _ _
    · exact .nil _

/-- The queues see the operations of all deeds one after the other. -/
theorem served_run (c : Crowd σ) (turns : List (Turn σ)) :
    Program.Served Queue.Store.serve c.party.store (operations (c.run backend turns).1)
      (c.run backend turns).2.party.store := by
  induction turns generalizing c with
  | nil => exact .nil _
  | cons turn turns ih =>
    unfold run operations
    rw [List.filterMap_append]
    exact Program.served_append.2 ⟨_, c.served_turn turn, ih _⟩

/-- **Entries are conserved.**  At any party, for any deeds under way at once and any order of their
steps, the successful enqueues and restores of a track less its removals and pops are one if it waits and
none if it does not.  From any state so reached, as long as a track that does not wait is neither taken
out nor brought back, the first attempt to enqueue it succeeds and all others are refused because it is
queued; and as long as none is put in, the track is popped at most once, and exactly once if nobody
removed it and it waits no longer. -/
theorem entries_conserved {σ : Type} (backend : Backend σ) (rules : Rules)
    (scheduling : Scheduler.Settings) (sessionNames : Nat → SessionId) (service : σ)
    (time : Timestamp) (before after : List (Turn σ)) :
    let start := idle (Party.new rules scheduling sessionNames service time)
    let log := operations (start.run backend before).1
    let c := (start.run backend before).2
    let log' := operations (c.run backend after).1
    let c' := (c.run backend after).2
    ∀ id,
      ((enqueued log).count id + (restored log).count id : Int) -
          ((removed log).count id + (popped log).count id) =
        (if c.party.store.contains id then 1 else 0) ∧
      (c.party.store.contains id = false → Undisturbed id log' → attempts id log' ≠ [] →
        ∃ later, attempts id log' = .ok () :: later ∧
          ∀ r ∈ later, ∃ queue, r = .error (.alreadyQueued id queue)) ∧
      (id ∉ enqueued log' → id ∉ restored log' → (popped log').count id ≤ 1 ∧
        (id ∉ removed log' → ((popped log').count id = 1 ↔
          c.party.store.contains id = true ∧ c'.party.store.contains id = false))) := by
  intro start log c log' c' id
  have hserved : Program.Served Queue.Store.serve start.party.store log c.party.store :=
    served_run start before
  have hserved' : Program.Served Queue.Store.serve c.party.store log' c'.party.store :=
    served_run c after
  have hb := Queue.Store.balanced hserved List.nodup_nil
  have hb' := Queue.Store.balanced hserved' hb.unique
  have hcount := hb.count id
  have hcount' := hb'.count id
  have hempty : start.party.store.presence id = 0 := rfl
  have hwaits := Queue.Store.presence_eq hb.unique id
  have hwaits' := Queue.Store.presence_eq hb'.unique id
  refine ⟨?_, fun habsent hquiet hsome => ?_, fun henqueued hrestored => ?_⟩
  · cases hc : c.party.store.contains id <;> rw [hc] at hwaits <;>
      simp only [if_true, if_false, Bool.false_eq_true] at hwaits ⊢ <;> omega
  · rw [habsent] at hwaits
    exact Queue.Store.attempts_of_absent hserved' hb.unique hwaits hquiet hsome
  · rw [List.count_eq_zero.2 henqueued, List.count_eq_zero.2 hrestored] at hcount'
    refine ⟨by split at hwaits <;> omega, fun hremoved => ?_⟩
    rw [List.count_eq_zero.2 hremoved, hwaits, hwaits'] at hcount'
    cases hc : c.party.store.contains id <;> cases hc' : c'.party.store.contains id <;>
      simp only [hc, hc', if_true, if_false, Bool.false_eq_true] at hcount' ⊢ <;> simp <;> omega

/-- Two guests look the same track up before either of them adds it; then it is popped twice at once. -/
theorem entries_conserved_race :
    let a : TrackId := ⟨"a"⟩
    let add : Turn Script := .begin (.request (.add ⟨"s"⟩ a .normal))
    let pop : Turn Script := .begin (.queue .pop)
    let both (i j : Nat) : List (Turn Script) := [.proceed i, .proceed j]
    let asked := [.begin (.join none true), .proceed 0, add, add] ++
      both 1 2 ++ both 1 2 ++ both 1 2 ++ both 1 2
    let added := asked ++ both 2 1
    let start := idle (Party.new ⟨none, none, 10⟩ ⟨2000, 5, 10000⟩ (fun _ => ⟨"s"⟩) Script.empty default)
    let c := (start.run Script.backend asked).2
    let log := operations (c.run Script.backend (both 2 1)).1
    let c' := (start.run Script.backend added).2
    let taken := [pop, pop] ++ both 3 4
    let log' := operations (c'.run Script.backend taken).1
    (c.party.store.contains a = false ∧ Undisturbed a log ∧ (attempts a log).length = 2 ∧
      ∃ later, attempts a log = .ok () :: later ∧
        ∀ r ∈ later, ∃ queue, r = .error (.alreadyQueued a queue)) ∧
    a ∉ enqueued log' ∧ a ∉ restored log' ∧ a ∉ removed log' ∧ (popped log').count a = 1 := by
  intro a add pop both asked added start c log c' taken log'
  have habsent : c.party.store.contains a = false := by decide +kernel
  have hquiet : Undisturbed a log :=
    ⟨by decide +kernel, by decide +kernel, by decide +kernel⟩
  have hlength : (attempts a log).length = 2 := by decide +kernel
  have hsome : attempts a log ≠ [] := List.ne_nil_of_length_pos (by rw [hlength]; exact Nat.two_pos)
  have henqueued : a ∉ enqueued log' := by decide +kernel
  have hrestored : a ∉ restored log' := by decide +kernel
  have hremoved : a ∉ removed log' := by decide +kernel
  have hadded := (entries_conserved Script.backend ⟨none, none, 10⟩ ⟨2000, 5, 10000⟩ (fun _ => ⟨"s"⟩)
    Script.empty default asked (both 2 1) a).2.1 habsent hquiet hsome
  have hpopped := ((entries_conserved Script.backend ⟨none, none, 10⟩ ⟨2000, 5, 10000⟩
    (fun _ => ⟨"s"⟩) Script.empty default added taken a).2.2 henqueued hrestored).2 hremoved
  exact ⟨⟨habsent, hquiet, hlength, hadded⟩, henqueued, hrestored, hremoved,
    hpopped.2 ⟨by decide +kernel, by decide +kernel⟩⟩

end Crowd
end Jukebox.Party
