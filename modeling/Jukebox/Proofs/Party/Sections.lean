import Jukebox.Proofs.Party.Courses

/-!
# Operations that hold a lock are not interrupted

While deeds take turns, an operation that needs a lock of the gateway takes it with its first step and gives it
back with its last (`May.advance`), so the steps that are made under a lock are, in the order of time, those of
one whole operation after the other: its `sections`.
-/

namespace Jukebox.Party

open Gateway (Lock)

variable {σ α : Type} {backend : Backend σ} {preferred : Option String}

/-! ## Courses and locks -/

namespace Course

/-- The lock that the operation under way needs. -/
def held (c : Course preferred) : Option Lock :=
  c.current.bind (·.1.lock?)

/-- What the operation under way has exchanged. -/
def trail (c : Course preferred) : List (Exchange Gateway.interface) :=
  c.current.elim [] (·.2)

/-- All that was exchanged with the gateway. -/
def trace (c : Course preferred) : List (Exchange Gateway.interface) :=
  c.blocks.flatMap Block.trace ++ c.trail

/-- The operations that are over and needed the lock. -/
def under (c : Course preferred) (lock : Lock) : List (Block preferred) :=
  c.blocks.filter (·.op.lock? = some lock)

end Course

/-- How a step takes a deed along its course, with regard to the locks. -/
inductive Advance (c : Course preferred) : Exchange interface → Course preferred → Prop
  /-- A step that has to do with no lock. -/
  | free {x : Exchange interface} {c' : Course preferred}
      (hx : Action.taken x.request = none ∧ Action.freed x.request = none)
      (hcall : ∀ call, x.request = .gateway (.call call) →
        ∃ op : Gateway.Operation, op.lock? = none ∧ op.Asks (.call call))
      (hheld : c.held = none) (hheld' : c'.held = none) (hunder : ∀ lock, c'.under lock = c.under lock) :
      Advance c x c'
  /-- The first step of an operation that needs a lock. -/
  | takes {op : Gateway.Operation} {lock : Lock} {y : Exchange Gateway.interface}
      (hlock : op.lock? = some lock) (hy : y.request = .acquire lock) (hc : c.current = none)
      (hop : Unfinished preferred op [y]) :
      Advance c (atGateway y) (c.within op [y])
  /-- A call of an operation that needs a lock. -/
  | calls {op : Gateway.Operation} {lock : Lock} {t : List (Exchange Gateway.interface)}
      {y : Exchange Gateway.interface} (hlock : op.lock? = some lock) (hy : op.Asks y.request)
      (hc : c.current = some (op, t)) (hop : Unfinished preferred op (t ++ [y])) :
      Advance c (atGateway y) (c.within op (t ++ [y]))
  /-- The last step of an operation that needs a lock. -/
  | frees {b : Block preferred} {lock : Lock} {t : List (Exchange Gateway.interface)}
      {y : Exchange Gateway.interface} (hlock : b.op.lock? = some lock) (hy : y.request = .release lock)
      (hc : c.current = some (b.op, t)) (hb : b.trace = t ++ [y]) : Advance c (atGateway y) (c.closed b)

/-- What comes before the end of a list is in front of its last element. -/
theorem mem_of_append_eq_concat {β : Type} {t u v : List β} {y z : β}
    (h : t ++ y :: u = v ++ [z]) (hu : u ≠ []) : y ∈ v := by
  rcases List.eq_nil_or_concat u with rfl | ⟨u', z', rfl⟩
  · exact absurd rfl hu
  · rw [List.concat_eq_append, ← List.cons_append, ← List.append_assoc] at h
    rw [← (List.append_inj' h rfl).1]
    exact List.mem_append_right _ (List.mem_cons_self ..)

section
variable {c c' : Course preferred} {op : Gateway.Operation} {t : List (Exchange Gateway.interface)}

theorem Course.At.current (h : c.At op t) (ht : t ≠ []) : c.current = some (op, t) := by
  unfold Course.At at h
  rwa [List.isEmpty_eq_false_iff.2 ht, if_neg Bool.false_ne_true] at h

theorem Course.At.held (h : c.At op t) (hop : op.lock? = none) : c.held = none := by
  unfold Course.At at h
  unfold Course.held
  rw [h]
  split
  · rfl
  · exact hop

/-- A call of an operation that needs no lock. -/
theorem advance_call {y : Exchange Gateway.interface} (hc : c.At op t) (hlock : op.lock? = none)
    (hy : op.Asks y.request) (hheld : c'.held = none) (hunder : ∀ lock, c'.under lock = c.under lock) :
    Advance c (atGateway y) c' := by
  obtain ⟨call, hcall, hasks⟩ := hy
  refine .free ?_ (fun call' h => ⟨op, hlock, call', rfl, ?_⟩) (hc.held hlock) hheld hunder
  · show Action.taken (.gateway y.request) = none ∧ Action.freed (.gateway y.request) = none
    rw [hcall]
    exact ⟨rfl, rfl⟩
  · obtain rfl : call = call' := Gateway.Action.call.inj (hcall.symm.trans (Action.gateway.inj h))
    exact hasks

theorem May.advance {x : Exchange interface} (h : May c x c') : Advance c x c' := by
  cases h with
  | own hx hc =>
    obtain ⟨a, x⟩ := x
    have hheld : c.held = none := by
      unfold Course.held
      rw [hc]
      rfl
    cases a with
    | gateway => exact hx.elim
    | _ => exact .free ⟨rfl, rfl⟩ (fun call h => by cases h) hheld hheld fun _ => rfl
  | @inside op t y hc hop =>
    obtain ⟨u, r, hu, hwhole⟩ := id hop
    rw [List.append_assoc, List.singleton_append] at hwhole
    rcases Gateway.yields_task hwhole with ⟨lock, v, hlock, ht, hasks⟩ | ⟨hfree, hasks⟩
    · cases t with
      | nil =>
        obtain ⟨rfl, -⟩ := List.cons.inj ht
        exact .takes hlock rfl hc hop
      | cons a t =>
        obtain ⟨-, ht⟩ := List.cons.inj ht
        have hy := hasks y (mem_of_append_eq_concat ht hu)
        exact .calls hlock hy (hc.current (List.cons_ne_nil _ _)) hop
    · have hlock : op.lock? = none := hfree.resolve_right (by simp)
      have hy := hasks y (List.mem_append_right _ (List.mem_cons_self ..))
      exact advance_call hc hlock hy hlock fun _ => rfl
  | @last b t y hc hb =>
    have hwhole := b.whole
    rw [hb] at hwhole
    rcases Gateway.yields_task hwhole with ⟨lock, v, hlock, ht, hasks⟩ | ⟨hfree, hasks⟩
    · rw [← List.cons_append] at ht
      obtain ⟨rfl, hy⟩ := List.append_inj' ht rfl
      obtain rfl := List.singleton_inj.1 hy
      exact .frees hlock rfl (hc.current (List.cons_ne_nil _ _)) hb
    · have hlock : b.op.lock? = none := hfree.resolve_right (by simp)
      have hy := hasks y (List.mem_append_right _ (List.mem_cons_self ..))
      refine advance_call hc hlock hy rfl fun lock => ?_
      unfold Course.under Course.closed
      rw [List.filter_append, List.filter_cons_of_neg (by simp [hlock])]
      simp

/-- An exchange with the gateway. -/
def gatewayIn : Exchange interface → Option (Exchange Gateway.interface)
  | ⟨.gateway a, x⟩ => some ⟨a, x⟩
  | _ => none

theorem May.unfinished {x : Exchange interface} (h : May c x c') (hcurrent : c'.current = some (op, t)) :
    Unfinished preferred op t := by
  cases h with
  | own hx hc =>
    rw [show c.current = some (op, t) from hcurrent] at hc
    cases hc
  | inside hc hop =>
    cases hcurrent
    exact hop
  | last => cases hcurrent

theorem May.told {x : Exchange interface} (h : May c x c') : c'.told = c.told ++ (toldIn x).toList := by
  cases h with
  | own => rfl
  | inside | last => exact (List.append_nil _).symm

theorem Course.At.trail (h : c.At op t) : c.trail = t := by
  unfold Course.trail
  rw [h]
  cases t <;> rfl

theorem May.trace {x : Exchange interface} (h : May c x c') :
    c'.trace = c.trace ++ (gatewayIn x).toList := by
  cases h with
  | own hx hc =>
    obtain ⟨a, x⟩ := x
    cases a with
    | gateway => exact hx.elim
    | _ => exact (List.append_nil _).symm
  | @inside op t y hc =>
    show c.blocks.flatMap Block.trace ++ (t ++ [y]) = (c.blocks.flatMap Block.trace ++ c.trail) ++ [y]
    rw [hc.trail, List.append_assoc]
  | @last b t y hc hb =>
    show (c.blocks ++ [b]).flatMap Block.trace ++ [] = (_ ++ c.trail) ++ [y]
    rw [hc.trail, List.flatMap_append, List.flatMap_singleton, hb, List.append_nil, List.append_assoc]

end

/-! ## Sections -/

/-- The step takes the lock, or is made by the deed that holds it. -/
def isUnder (lock : Lock) (x : (venue backend).Step) : Bool :=
  x.holder lock == some x.who || Action.taken x.request == some lock

/-- Who made a step, and what was exchanged in it. -/
def signed (x : (venue backend).Step) : Nat × Exchange interface :=
  (x.who, x.exchanged)

/-- What a deed exchanged with the gateway. -/
def signedBy (who : Nat) (t : List (Exchange Gateway.interface)) : List (Nat × Exchange interface) :=
  t.map fun y => (who, atGateway y)

/-- What was exchanged in a section: a whole operation of one deed. -/
def written (s : Nat × Block preferred) : List (Nat × Exchange interface) :=
  signedBy s.1 s.2.trace

/-- What the holder of a lock has exchanged in the operation for which it holds the lock. -/
def openTrail (courses : List (Course preferred)) : Option Nat → List (Nat × Exchange interface)
  | none => []
  | some who => signedBy who ((courses[who]?.map Course.trail).getD [])

/-- The steps under each lock are whole operations, one after the other, and those of the present holder. -/
structure Sectioned (courses : List (Course preferred)) (sections : Lock → List (Nat × Block preferred))
    (c : (venue backend).Scene) : Prop where
  counted : c.Counted
  holding : Venue.Holding Course.held courses c.holder
  steps : ∀ lock, (c.log.filter (isUnder lock)).map signed =
    (sections lock).flatMap written ++ openTrail courses (c.holder lock)
  known : ∀ lock, ∀ s ∈ sections lock, s.1 < courses.length
  /-- The sections of a deed are its own operations in their order. -/
  order : ∀ (lock : Lock) (who : Nat) (course : Course preferred), courses[who]? = some course →
    ((sections lock).filter (·.1 = who)).map (·.2) = course.under lock
  /-- A deed exchanges nothing with the gateway but its operations. -/
  own : ∀ (who : Nat) (course : Course preferred), courses[who]? = some course →
    ((c.own who).map Venue.Step.exchanged).filterMap gatewayIn = course.trace
  told : ∀ (who : Nat) (course : Course preferred), courses[who]? = some course →
    told ((c.own who).map Venue.Step.exchanged) = course.told
  unfinished : ∀ (who : Nat) (course : Course preferred) op t, courses[who]? = some course →
    course.current = some (op, t) → Unfinished preferred op t
  /-- Without a lock only operations that need none make calls. -/
  outside : ∀ x ∈ c.log, ∀ call, x.request = .gateway (.call call) → (∀ lock, isUnder lock x = false) →
    ∃ op : Gateway.Operation, op.lock? = none ∧ op.Asks (.call call)

section
variable {courses : List (Course preferred)} {sections : Lock → List (Nat × Block preferred)}
  {c : (venue backend).Scene} {who : Nat} {course course' : Course preferred}

@[simp]
theorem signedBy_append (t u : List (Exchange Gateway.interface)) :
    signedBy who (t ++ u) = signedBy who t ++ signedBy who u :=
  List.map_append

theorem openTrail_self (h : courses[who]? = some course) :
    openTrail courses (some who) = signedBy who course.trail := by
  simp [openTrail, h]

theorem openTrail_of_getElem? {courses' : List (Course preferred)} {holder : Option Nat}
    (h : ∀ other, holder = some other → courses'[other]? = courses[other]?) :
    openTrail courses' holder = openTrail courses holder := by
  cases holder with
  | none => rfl
  | some other => simp [openTrail, h other rfl]

theorem Sectioned.begun (h : Sectioned courses sections c) (hlength : courses.length = c.pending.length)
    (d : Deed σ) : Sectioned (courses ++ [Course.start]) sections (c.begun d) := by
  have hnew : (c.begun d).own courses.length = [] :=
    Venue.Scene.own_eq_nil (c := c) h.counted (Nat.le_of_eq hlength.symm)
  have hold : ∀ {other}, other < courses.length →
      (courses ++ [Course.start])[other]? = courses[other]? := fun hlt => List.getElem?_append_left hlt
  refine ⟨Venue.Scene.counted_begun h.counted d, h.holding.begun rfl, fun lock => ?_, ?_, ?_, ?_, ?_, ?_,
    h.outside⟩
  · refine (h.steps lock).trans (congrArg _ (openTrail_of_getElem? fun other hother => ?_).symm)
    exact hold (h.holding.lt hother)
  · intro lock s hs
    rw [List.length_append]
    exact Nat.lt_of_lt_of_le (h.known lock s hs) (Nat.le_add_right _ _)
  · intro lock who course hcourse
    rcases Venue.Scene.getElem?_concat hcourse with ⟨rfl, rfl⟩ | hcourse
    · have hnone : (sections lock).filter (·.1 = courses.length) = [] := by
        refine List.filter_eq_nil_iff.2 fun s hs => ?_
        have hlt := h.known lock s hs
        simp only [decide_eq_true_eq]
        omega
      rw [hnone]
      rfl
    · exact h.order lock who course hcourse
  · intro who course hcourse
    rcases Venue.Scene.getElem?_concat hcourse with ⟨rfl, rfl⟩ | hcourse
    · rw [hnew]
      rfl
    · exact h.own who course hcourse
  · intro who course hcourse
    rcases Venue.Scene.getElem?_concat hcourse with ⟨rfl, rfl⟩ | hcourse
    · rw [hnew]
      rfl
    · exact h.told who course hcourse
  · intro who course op t hcourse hcurrent
    rcases Venue.Scene.getElem?_concat hcourse with ⟨-, rfl⟩ | hcourse
    · cases hcurrent
    · exact h.unfinished who course op t hcourse hcurrent

/-- The sections with those operations that end on the way from one course to the next. -/
def grown (who : Nat) (course course' : Course preferred) (sections : Lock → List (Nat × Block preferred))
    (lock : Lock) : List (Nat × Block preferred) :=
  sections lock ++ ((course'.under lock).drop (course.under lock).length).map (who, ·)

theorem grown_of_under_eq {lock : Lock} (h : course'.under lock = course.under lock) :
    grown who course course' sections lock = sections lock := by
  unfold grown
  rw [h, List.drop_length, List.map_nil, List.append_nil]

theorem grown_within (op : Gateway.Operation) (t : List (Exchange Gateway.interface)) :
    grown who course (course.within op t) sections = sections :=
  funext fun _ => grown_of_under_eq rfl

theorem under_closed (course : Course preferred) (b : Block preferred) (lock : Lock) :
    (course.closed b).under lock = course.under lock ++ if b.op.lock? = some lock then [b] else [] := by
  unfold Course.under Course.closed
  rw [List.filter_append]
  by_cases hb : b.op.lock? = some lock <;> simp [hb]

theorem grown_closed (b : Block preferred) (lock : Lock) :
    grown who course (course.closed b) sections lock =
      sections lock ++ if b.op.lock? = some lock then [(who, b)] else [] := by
  unfold grown
  rw [under_closed, List.drop_append_of_le_length (Nat.le_refl _), List.drop_length, List.nil_append]
  split <;> rfl

/-- An operation takes its lock with its first step and gives it back with its last. -/
theorem Advance.passes {x : Exchange interface} (h : Advance course x course') :
    (venue backend).Passes x.request course.held course'.held := by
  cases h with
  | free hx hcall hheld hheld' =>
    rw [hheld, hheld']
    exact .stays hx.1 hx.2
  | @takes op lock y hlock hy hc =>
    have hheld : course.held = none := by
      unfold Course.held
      rw [hc]
      rfl
    have hheld' : (course.within op [y]).held = some lock := hlock
    rw [hheld, hheld']
    exact .takes (congrArg (Action.taken ∘ .gateway) hy) (congrArg (Action.freed ∘ .gateway) hy)
  | @calls op lock t y hlock hy hc =>
    have hheld : course.held = (course.within op (t ++ [y])).held := by
      unfold Course.held
      rw [hc]
      rfl
    obtain ⟨call, hcall, -⟩ := hy
    rw [hheld]
    exact .stays (congrArg (Action.taken ∘ .gateway) hcall) (congrArg (Action.freed ∘ .gateway) hcall)
  | @frees b lock t y hlock hy hc =>
    have hheld : course.held = some lock := by
      unfold Course.held
      rw [hc]
      exact hlock
    rw [hheld]
    exact .frees (congrArg (Action.taken ∘ .gateway) hy) (congrArg (Action.freed ∘ .gateway) hy)

/-- What a step of the deed `who` has to do with one lock, whose holder is `before` and then `after`. -/
inductive AtLock (lock : Lock) (who : Nat) (course : Course preferred) (before : Option Nat) :
    Exchange interface → Course preferred → Option Nat → Prop
  /-- The step belongs to no operation that needs the lock. -/
  | apart {x : Exchange interface} {course' : Course preferred} (hbefore : before ≠ some who)
      (hx : Action.taken x.request ≠ some lock) (hunder : course'.under lock = course.under lock)
      (hcall : ∀ call, x.request = .gateway (.call call) →
        ∃ op : Gateway.Operation, op.lock? ≠ some lock ∧ op.Asks (.call call)) :
      AtLock lock who course before x course' before
  | takes {op : Gateway.Operation} {y : Exchange Gateway.interface} (hlock : op.lock? = some lock)
      (hy : y.request = .acquire lock) (hbefore : before = none) :
      AtLock lock who course before (atGateway y) (course.within op [y]) (some who)
  | calls {op : Gateway.Operation} {y : Exchange Gateway.interface} (hlock : op.lock? = some lock)
      (hy : op.Asks y.request) (hbefore : before = some who) :
      AtLock lock who course before (atGateway y) (course.within op (course.trail ++ [y])) (some who)
  | frees {b : Block preferred} {y : Exchange Gateway.interface} (hlock : b.op.lock? = some lock)
      (hy : y.request = .release lock) (hbefore : before = some who) (hb : b.trace = course.trail ++ [y]) :
      AtLock lock who course before (atGateway y) (course.closed b) none

/-- An operation that is under way holds its lock. -/
theorem Sectioned.holder_eq (h : Sectioned courses sections c) (hcourse : courses[who]? = some course)
    {op : Gateway.Operation} {t : List (Exchange Gateway.interface)} {lock : Lock}
    (hc : course.current = some (op, t)) (hlock : op.lock? = some lock) :
    course.trail = t ∧ ∀ other, c.holder other = some who ↔ lock = other := by
  have hheld : course.held = some lock := by
    unfold Course.held
    rw [hc]
    exact hlock
  refine ⟨?_, fun other => ?_⟩
  · unfold Course.trail
    rw [hc]
    rfl
  · rw [h.holding.holder_iff hcourse other, hheld, Option.some.injEq]

theorem Advance.atLock (h : Sectioned courses sections c) (hcourse : courses[who]? = some course)
    {x : Exchange interface} (hadvance : Advance course x course')
    (hadmits : (venue backend).admits x.request c.holder = true) (lock : Lock) :
    AtLock lock who course (c.holder lock) x course' ((venue backend).passed x.request who c.holder lock) := by
  have hpassed : (venue backend).passed x.request who c.holder lock =
      if Action.taken x.request = some lock then some who
      else if Action.freed x.request = some lock then none else c.holder lock := rfl
  have hheld := h.holding.holder_iff hcourse lock
  rw [hpassed]
  cases hadvance with
  | free hfree hcall hnone hnone' hunder =>
    rw [hfree.1, hfree.2]
    refine .apart ?_ (by rw [hfree.1]; nofun) (hunder lock) fun call hx => ?_
    · rw [Ne, hheld, hnone]
      nofun
    · obtain ⟨op, hop, hasks⟩ := hcall call hx
      exact ⟨op, by rw [hop]; nofun, hasks⟩
  | @takes op l y hl hy hc =>
    have ht : Action.taken (atGateway y).request = some l := congrArg (Action.taken ∘ Action.gateway) hy
    have hf : Action.freed (atGateway y).request = none := congrArg (Action.freed ∘ Action.gateway) hy
    rw [ht, hf]
    by_cases heq : l = lock
    · subst heq
      have hfree : c.holder l = none := by
        unfold Venue.admits at hadmits
        rw [show (venue backend).takes (atGateway y).request = some l from ht] at hadmits
        simpa using hadmits
      rw [if_pos rfl]
      exact .takes hl hy hfree
    · rw [if_neg (by simpa using heq), if_neg nofun]
      refine .apart ?_ (by rw [ht]; simpa using heq) rfl fun call hx => ?_
      · rw [Ne, hheld, Course.held, hc]
        nofun
      · have hx := Action.gateway.inj hx
        rw [hy] at hx
        cases hx
  | @calls op l t y hl hy hc =>
    obtain ⟨rfl, hwho⟩ := h.holder_eq hcourse hc hl
    obtain ⟨call, hcall, hasks⟩ := id hy
    have ht : Action.taken (atGateway y).request = none := congrArg (Action.taken ∘ Action.gateway) hcall
    have hf : Action.freed (atGateway y).request = none := congrArg (Action.freed ∘ Action.gateway) hcall
    rw [ht, hf, if_neg nofun, if_neg nofun]
    by_cases heq : l = lock
    · have hholder := (hwho lock).2 heq
      rw [hholder]
      exact .calls (heq ▸ hl) hy rfl
    · refine .apart (fun hh => heq ((hwho lock).1 hh)) (by rw [ht]; nofun) rfl fun call' hx => ⟨op, ?_, ?_⟩
      · rw [hl]
        simpa using heq
      · rw [← Action.gateway.inj hx]
        exact hy
  | @frees b l t y hl hy hc hb =>
    obtain ⟨rfl, hwho⟩ := h.holder_eq hcourse hc hl
    have ht : Action.taken (atGateway y).request = none := congrArg (Action.taken ∘ Action.gateway) hy
    have hf : Action.freed (atGateway y).request = some l := congrArg (Action.freed ∘ Action.gateway) hy
    rw [ht, hf, if_neg nofun]
    by_cases heq : l = lock
    · subst heq
      rw [if_pos rfl]
      exact .frees hl hy ((hwho l).2 rfl) hb
    · rw [if_neg (by simpa using heq)]
      refine .apart (fun hh => heq ((hwho lock).1 hh)) (by rw [ht]; nofun) ?_ fun call hx => ?_
      · rw [under_closed, if_neg (by rw [hl]; simpa using heq), List.append_nil]
      · have hx := Action.gateway.inj hx
        rw [hy] at hx
        cases hx

/-- The exchange that comes with a step stands at the end of the log. -/
theorem steps_log {d : Deed σ} {r : Action} {next : r.Answer → Program interface d.Result}
    {x : Exchange interface} (hx : ⟨r, (serve backend r c.state).1⟩ = x) (lock : Lock) :
    ((c.stepped who d r next).log.filter (isUnder lock)).map signed =
      (c.log.filter (isUnder lock)).map signed ++
        if c.holder lock = some who ∨ Action.taken x.request = some lock then [(who, x)] else [] := by
  subst hx
  show ((c.log ++ [_]).filter (isUnder lock)).map signed = _
  rw [List.filter_append, List.map_append]
  congr 1
  by_cases h : c.holder lock = some who ∨ Action.taken r = some lock
  · have hunder : isUnder lock (⟨⟨r, c.state⟩, who, c.holder⟩ : (venue backend).Step) = true := by
      simpa [isUnder] using h
    rw [if_pos h, List.filter_cons_of_pos hunder]
    rfl
  · have hunder : ¬ isUnder lock (⟨⟨r, c.state⟩, who, c.holder⟩ : (venue backend).Step) = true := by
      simpa [isUnder] using h
    rw [if_neg h, List.filter_cons_of_neg hunder]
    rfl

/-- The steps under a lock go on being whole operations. -/
theorem Sectioned.steps_stepped (h : Sectioned courses sections c) {d : Deed σ} {r : Action}
    {next : r.Answer → Program interface d.Result} {x : Exchange interface}
    (hx : ⟨r, (serve backend r c.state).1⟩ = x) (hcourse : courses[who]? = some course) {lock : Lock}
    {after : Option Nat} (hlock : AtLock lock who course (c.holder lock) x course' after) :
    ((c.stepped who d r next).log.filter (isUnder lock)).map signed =
      (grown who course course' sections lock).flatMap written ++
        openTrail (courses.set who course') after := by
  have hlt := (List.getElem?_eq_some_iff.1 hcourse).1
  have hself : openTrail (courses.set who course') (some who) = signedBy who course'.trail :=
    openTrail_self (List.getElem?_set_self hlt)
  rw [steps_log hx, h.steps lock]
  generalize hbefore : c.holder lock = before at hlock
  cases hlock with
  | apart hno ht hunder =>
    rw [if_neg (by simp [hno, ht]), List.append_nil, grown_of_under_eq hunder]
    refine congrArg _ (openTrail_of_getElem? fun other hsome => List.getElem?_set_ne ?_).symm
    rintro rfl
    exact hno hsome
  | @takes op y hop hy hnone =>
    have ht : Action.taken (atGateway y).request = some lock :=
      congrArg (Action.taken ∘ Action.gateway) hy
    rw [if_pos (Or.inr ht), hself, grown_within, hnone]
    exact congrArg (· ++ _) (List.append_nil _)
  | @calls op y hop hy hwho =>
    rw [if_pos (Or.inl hwho), hself, grown_within, hwho, openTrail_self hcourse, List.append_assoc]
    exact congrArg _ (signedBy_append _ [y]).symm
  | @frees b y hop hy hwho hb =>
    have hwritten : written (who, b) = signedBy who course.trail ++ [(who, atGateway y)] := by
      unfold written
      rw [hb, signedBy_append]
      rfl
    rw [if_pos (Or.inl hwho), grown_closed, if_pos hop, hwho, openTrail_self hcourse,
      List.flatMap_append, List.flatMap_singleton, hwritten, List.append_assoc]
    exact (List.append_nil _).symm

theorem filterMap_singleton {β γ : Type} (f : β → Option γ) (x : β) :
    [x].filterMap f = (f x).toList := by
  rw [List.filterMap_cons]
  cases f x <;> rfl

/-- Of what one deed signed, another one signed nothing. -/
theorem filter_signed {β : Type} (l : List β) (who other : Nat) :
    ((l.map (who, ·)).filter (·.1 = other)).map (·.2) = if who = other then l else [] := by
  by_cases h : who = other <;> simp [h, List.filter_map, Function.comp_def]

theorem Advance.under_prefix {x : Exchange interface} (h : Advance course x course') (lock : Lock) :
    course.under lock <+: course'.under lock := by
  cases h with
  | free hx hcall hheld hheld' hunder => exact hunder lock ▸ List.prefix_rfl
  | takes | calls => exact List.prefix_rfl
  | frees => exact (List.prefix_append course.blocks _).filter _

/-- A call that is made without a lock. -/
theorem Advance.outside (h : Sectioned courses sections c) (hcourse : courses[who]? = some course)
    {r : Action} {x : Exchange interface} (hr : x.request = r) (hadvance : Advance course x course')
    {call : Call} (hcall : r = .gateway (.call call))
    (hunder : ∀ lock, isUnder lock (⟨⟨r, c.state⟩, who, c.holder⟩ : (venue backend).Step) = false) :
    ∃ op : Gateway.Operation, op.lock? = none ∧ op.Asks (.call call) := by
  rw [hcall] at hr
  cases hadvance with
  | free hx hcall' => exact hcall' call hr
  | takes hlock hy | frees hlock hy =>
    have hr := Action.gateway.inj hr
    rw [hy] at hr
    cases hr
  | @calls op lock t y hlock hy hc =>
    have hwho := ((h.holder_eq hcourse hc hlock).2 lock).2 rfl
    have hno := hunder lock
    simp [isUnder, hwho] at hno

/-- A step takes one deed further along its course, and leaves the steps under the locks in order. -/
theorem Sectioned.stepped (h : Sectioned courses sections c) {d : Deed σ} {r : Action}
    {next : r.Answer → Program interface d.Result}
    (hwho : c.pending[who]? = some ⟨d, .ask r next⟩) (hcourse : courses[who]? = some course)
    (hadmits : (venue backend).admits r c.holder = true)
    (hmay : May course ⟨r, (serve backend r c.state).1⟩ course') :
    Sectioned (courses.set who course') (grown who course course' sections) (c.stepped who d r next) := by
  generalize hx : (⟨r, (serve backend r c.state).1⟩ : Exchange interface) = x at hmay
  have hadvance := hmay.advance
  have hr : x.request = r := by rw [← hx]
  have hadmits' : (venue backend).admits x.request c.holder = true := hr ▸ hadmits
  have hlt := (List.getElem?_eq_some_iff.1 hcourse).1
  have hset : ∀ {other : Nat} {k : Course preferred}, (courses.set who course')[other]? = some k →
      (other = who ∧ k = course') ∨ (other ≠ who ∧ courses[other]? = some k) :=
    Venue.Scene.getElem?_of_set hlt
  have hown : ∀ other, ((c.stepped who d r next).own other).map Venue.Step.exchanged =
      (c.own other).map Venue.Step.exchanged ++ if who = other then [x] else [] := by
    intro other
    rw [Venue.Scene.own_stepped, List.map_append, ← hx]
    split <;> rfl
  refine ⟨Venue.Scene.counted_stepped h.counted hwho, ?_, ?_, ?_, ?_, ?_, ?_, ?_, ?_⟩
  · have hholding := h.holding.stepped hcourse hadvance.passes hadmits'
    rwa [hr] at hholding
  · intro lock
    have hlock := hadvance.atLock h hcourse hadmits' lock
    rw [hr] at hlock
    exact h.steps_stepped hx hcourse hlock
  · intro lock s hs
    rw [List.length_set]
    rcases List.mem_append.1 hs with hs | hs
    · exact h.known lock s hs
    · obtain ⟨b, -, rfl⟩ := List.mem_map.1 hs
      exact hlt
  · intro lock other k hk
    unfold grown
    rw [List.filter_append, List.map_append, filter_signed]
    rcases hset hk with ⟨rfl, rfl⟩ | ⟨hother, hk⟩
    · rw [h.order lock other course hcourse, if_pos rfl]
      exact List.prefix_iff_eq_append.1 (hadvance.under_prefix lock)
    · rw [h.order lock other k hk, if_neg (Ne.symm hother), List.append_nil]
  · intro other k hk
    rw [hown, List.filterMap_append]
    rcases hset hk with ⟨rfl, rfl⟩ | ⟨hother, hk⟩
    · rw [h.own other course hcourse, if_pos rfl, hmay.trace, filterMap_singleton]
    · rw [h.own other k hk, if_neg (Ne.symm hother)]
      exact List.append_nil _
  · intro other k hk
    rw [hown, told_append]
    rcases hset hk with ⟨rfl, rfl⟩ | ⟨hother, hk⟩
    · rw [h.told other course hcourse, if_pos rfl, hmay.told]
      exact congrArg _ (filterMap_singleton toldIn x)
    · rw [h.told other k hk, if_neg (Ne.symm hother)]
      exact List.append_nil _
  · intro other k op t hk hcurrent
    rcases hset hk with ⟨rfl, rfl⟩ | ⟨-, hk⟩
    · exact hmay.unfinished hcurrent
    · exact h.unfinished other k op t hk hcurrent
  · intro step hstep call hcall hunder
    rcases List.mem_append.1 hstep with hstep | hstep
    · exact h.outside step hstep call hcall hunder
    · obtain rfl := List.mem_singleton.1 hstep
      exact hadvance.outside h hcourse hr hcall hunder

end
end Jukebox.Party
