import Jukebox.Proofs.Gateway.Levels
import Jukebox.Proofs.Party.Sections

/-!
# Commands come one after the other

Any number of deeds take turns at a party.  The operations of the gateway that run under one lock are then
whole operations, one after the other (`Sections`).  If the playback service keeps the level of its volume,
such operations see only the level that the one before left, so no change of the volume is lost.

    Levelled    what a step preserves: the level is what the operations so far made of it, and whoever holds
                the lock has seen no other change (Levelled.stepped)
    Serial      what holds of the courses of all deeds (serial_run)
-/

namespace Jukebox.Party

open Gateway (Lock KeepsLevel Sees Seen)

variable {σ : Type} {backend : Backend σ} {preferred : Option String} {level : σ → UInt8}

/-! ## The level after some operations -/

/-- The level after the operations of some sections, one after the other. -/
def levelAfter (v : UInt8) (sections : List (Nat × Block preferred)) : UInt8 :=
  sections.foldl (fun v s => s.2.op.effect v) v

/-- Each operation reports the level that those before it left. -/
def Truthful (v : UInt8) (sections : List (Nat × Block preferred)) : Prop :=
  ∀ before s after, sections = before ++ s :: after → s.2.op.Reports (levelAfter v before) s.2.result

theorem levelAfter_concat (v : UInt8) (sections : List (Nat × Block preferred)) (s : Nat × Block preferred) :
    levelAfter v (sections ++ [s]) = s.2.op.effect (levelAfter v sections) := by
  simp [levelAfter]

theorem truthful_concat {v : UInt8} {sections : List (Nat × Block preferred)} {s : Nat × Block preferred}
    (h : Truthful v sections) (hs : s.2.op.Reports (levelAfter v sections) s.2.result) :
    Truthful v (sections ++ [s]) := by
  intro before s' after heq
  rcases List.eq_nil_or_concat after with rfl | ⟨after, z, rfl⟩
  · obtain ⟨rfl, hlast⟩ := List.append_inj' heq rfl
    obtain rfl := List.singleton_inj.1 hlast
    exact hs
  · rw [List.concat_eq_append, ← List.cons_append, ← List.append_assoc] at heq
    exact h before s' after (List.append_inj' heq rfl).1

/-- Only operations on the volume set it, and only to a percentage. -/
theorem asks_setVolume {op : Gateway.Operation} {percent : UInt8} (h : op.Asks (.call (.setVolume percent))) :
    op.lock? = some .volume ∧ percent ≤ 100 := by
  obtain ⟨c, hc, hcalls⟩ := h
  obtain rfl := Gateway.Action.call.inj hc
  cases op <;> simp_all [Gateway.Operation.Calls, Gateway.Operation.lock?]

/-! ## The level at a party -/

section
variable {courses : List (Course preferred)} {sections : Lock → List (Nat × Block preferred)}
  {c : (venue backend).Scene} {who : Nat} {course course' : Course preferred} {v : UInt8}

/-- The level is what the operations on the volume make of it, and the one under way sees nobody else's. -/
structure Levelled (level : σ → UInt8) (v : UInt8) (courses : List (Course preferred))
    (sections : List (Nat × Block preferred)) (holder : Option Nat) (service : σ) : Prop where
  free : holder = none → level service = levelAfter v sections
  held : ∀ (who : Nat) (course : Course preferred), holder = some who → courses[who]? = some course →
    Sees (levelAfter v sections) course.trail (level service)
  truthful : Truthful v sections

theorem level_serve (hlevel : KeepsLevel backend level) {a : Action}
    (ha : ∀ percent, a ≠ .gateway (.call (.setVolume percent))) (p : Party σ) :
    level (serve backend a p).2.service = level p.service := by
  cases a with
  | gateway a => exact hlevel.serve_eq p.clock (fun percent h => ha percent (congrArg Action.gateway h)) p.service
  | _ => rfl

/-- What a step of the gateway exchanges is seen from the level. -/
theorem seen_step (hlevel : KeepsLevel backend level) {r : Action} {p : Party σ}
    {y : Exchange Gateway.interface} (hx : ⟨r, (serve backend r p).1⟩ = atGateway y)
    (hy : ∀ percent, y.request = .call (.setVolume percent) → percent ≤ 100) :
    Seen (level p.service) y (level (serve backend r p).2.service) := by
  obtain ⟨a, answer⟩ := y
  have hx : (⟨r, (serve backend r p).1⟩ : Exchange interface) = ⟨.gateway a, answer⟩ := hx
  cases hx
  exact hlevel.seen p.clock hy p.service

theorem Levelled.stepped (hlevel : KeepsLevel backend level)
    (h : Levelled level v courses (sections .volume) (c.holder .volume) c.state.service)
    (hcourse : courses[who]? = some course) {r : Action} {x : Exchange interface}
    (hx : ⟨r, (serve backend r c.state).1⟩ = x) {after : Option Nat}
    (hlock : AtLock .volume who course (c.holder .volume) x course' after) :
    Levelled level v (courses.set who course') (grown who course course' sections .volume) after
      (serve backend r c.state).2.service := by
  have hlt := (List.getElem?_eq_some_iff.1 hcourse).1
  have hself : (courses.set who course')[who]? = some course' := List.getElem?_set_self hlt
  have hr : x.request = r := by rw [← hx]
  generalize c.holder .volume = before at h hlock
  cases hlock with
  | apart hno ht hunder hcall =>
    have hsame : level (serve backend r c.state).2.service = level c.state.service := by
      refine level_serve hlevel (fun percent heq => ?_) c.state
      obtain ⟨op, hop, hasks⟩ := hcall _ (hr.trans heq)
      exact hop (asks_setVolume hasks).1
    rw [grown_of_under_eq hunder]
    refine ⟨fun hnone => hsame.trans (h.free hnone), fun other k hholder hk => ?_, h.truthful⟩
    rw [List.getElem?_set_ne (by rintro rfl; exact hno hholder)] at hk
    rw [hsame]
    exact h.held other k hholder hk
  | @takes op y hop hy hnone =>
    have hseen := seen_step hlevel hx fun percent heq => by rw [hy] at heq; cases heq
    rw [h.free hnone] at hseen
    rw [grown_within]
    refine ⟨nofun, fun other k hholder hk => ?_, h.truthful⟩
    obtain rfl := Option.some.inj hholder
    obtain rfl := Option.some.inj (hself.symm.trans hk)
    exact Gateway.sees_singleton.2 hseen
  | @calls op y hop hy hwho =>
    have hseen := seen_step hlevel hx fun percent heq => (asks_setVolume (heq ▸ hy)).2
    rw [grown_within]
    refine ⟨nofun, fun other k hholder hk => ?_, h.truthful⟩
    obtain rfl := Option.some.inj hholder
    obtain rfl := Option.some.inj (hself.symm.trans hk)
    exact Gateway.sees_append.2 ⟨_, h.held _ course hwho hcourse, Gateway.sees_singleton.2 hseen⟩
  | @frees b y hop hy hwho hb =>
    have hseen := seen_step hlevel hx fun percent heq => by rw [hy] at heq; cases heq
    have hsees : Sees (levelAfter v (sections .volume)) b.trace
        (level (serve backend r c.state).2.service) := by
      rw [hb]
      exact Gateway.sees_append.2 ⟨_, h.held _ course hwho hcourse, Gateway.sees_singleton.2 hseen⟩
    have hne : b.trace ≠ [] := by
      rw [hb]
      exact List.append_ne_nil_of_right_ne_nil _ (List.cons_ne_nil _ _)
    obtain ⟨heffect, hreports⟩ := Gateway.sees_task hop hne b.whole hsees
    rw [grown_closed, if_pos hop]
    refine ⟨fun _ => ?_, nofun, truthful_concat h.truthful hreports⟩
    rw [levelAfter_concat]
    exact heffect

theorem Levelled.begun (h : Levelled level v courses (sections .volume) (c.holder .volume) c.state.service)
    (hholding : Venue.Holding Course.held courses c.holder) {service : σ}
    (hservice : level service = level c.state.service) :
    Levelled level v (courses ++ [Course.start]) (sections .volume) (c.holder .volume) service := by
  refine ⟨fun hnone => hservice.trans (h.free hnone), fun who course hholder hcourse => ?_, h.truthful⟩
  rw [List.getElem?_append_left (hholding.lt hholder)] at hcourse
  rw [hservice]
  exact h.held who course hholder hcourse

/-! ## Commands -/

theorem asks_of_mem {op : Gateway.Operation} {t : List (Exchange Gateway.interface)}
    {r : Except Error op.Result} {y : Exchange Gateway.interface} {call : Call}
    (h : (op.task preferred).run.Yields t r) (hy : y ∈ t) (hcall : y.request = .call call) :
    op.Asks (.call call) := by
  rcases Gateway.yields_task h with ⟨lock, u, -, rfl, hasks⟩ | ⟨-, hasks⟩
  · rcases List.mem_cons.1 hy with rfl | hy
    · cases hcall
    · rcases List.mem_append.1 hy with hy | hy
      · exact hcall ▸ hasks y hy
      · obtain rfl := List.mem_singleton.1 hy
        cases hcall
  · exact hcall ▸ hasks y hy

/-- The volume is set to percentages only. -/
theorem Sectioned.percent_le (h : Sectioned courses sections c) (hlength : courses.length = c.pending.length)
    {x : (venue backend).Step} (hx : x ∈ c.log) {percent : UInt8}
    (hcall : x.request = .gateway (.call (.setVolume percent))) : percent ≤ 100 := by
  have hlt : x.who < courses.length := hlength ▸ h.counted x hx
  have hown := h.own x.who _ (List.getElem?_eq_getElem hlt)
  have hmem : x.exchanged ∈ (c.own x.who).map Venue.Step.exchanged :=
    List.mem_map_of_mem (List.mem_filter.2 ⟨hx, decide_eq_true rfl⟩)
  obtain ⟨⟨a, p⟩, who, holder⟩ := x
  obtain rfl : a = .gateway (.call (.setVolume percent)) := hcall
  have hy : _ ∈ ((c.own who).map Venue.Step.exchanged).filterMap gatewayIn :=
    List.mem_filterMap.2 ⟨_, hmem, rfl⟩
  rw [hown] at hy
  rcases List.mem_append.1 hy with hy | hy
  · obtain ⟨b, -, hy⟩ := List.mem_flatMap.1 hy
    exact (asks_setVolume (asks_of_mem b.whole hy rfl)).2
  · unfold Course.trail at hy
    cases hcurrent : courses[who].current with
    | none =>
      rw [hcurrent] at hy
      cases hy
    | some current =>
      rw [hcurrent] at hy
      obtain ⟨u, r, -, hwhole⟩ := h.unfinished who _ current.1 current.2 (List.getElem?_eq_getElem hlt) hcurrent
      exact (asks_setVolume (asks_of_mem hwhole (List.mem_append_left u hy) rfl)).2

/-- The deed's change of the volume is one of the sections, and made this of the level before it. -/
def TookTurn (v : UInt8) (sections : List (Nat × Block preferred)) (who : Nat) (delta : Int16)
    (volume : UInt8) : Prop :=
  ∃ before b after, sections = before ++ (who, b) :: after ∧ b.op = .adjustVolume delta ∧
    volume = Gateway.stepped (levelAfter v before) delta

/-- The only operation of a deed is one of the sections, and reports the level before it. -/
theorem Sectioned.section_of_block (h : Sectioned courses sections c)
    (htruthful : Truthful v (sections .volume)) (hcourse : courses[who]? = some course)
    {b : Block preferred} (hblocks : course.blocks = [b]) (hb : b.op.lock? = some .volume) :
    ∃ before after, sections .volume = before ++ (who, b) :: after ∧
      b.op.Reports (levelAfter v before) b.result := by
  have horder := h.order .volume who course hcourse
  have hunder : course.under .volume = [b] := by
    unfold Course.under
    rw [hblocks]
    exact List.filter_cons_of_pos (decide_eq_true hb)
  have hmem : b ∈ ((sections .volume).filter (·.1 = who)).map (·.2) := by
    rw [horder, hunder]
    exact List.mem_singleton_self b
  obtain ⟨s, hs, rfl⟩ := List.mem_map.1 hmem
  obtain ⟨hsection, hwho⟩ := List.mem_filter.1 hs
  obtain ⟨before, after, heq⟩ := List.append_of_mem hsection
  obtain rfl := of_decide_eq_true hwho
  exact ⟨before, after, heq, htruthful before s after heq⟩

/-- A guest's change of the volume was refused, or it took its turn, and observers were told of it. -/
theorem settled_cases (h : Sectioned courses sections c) (htruthful : Truthful v (sections .volume))
    (hcourse : courses[who]? = some course) {delta : Int16} {r : Except Error Unit}
    (hr : Settled delta course r) :
    (∃ e, r = .error e ∧ course.told = [] ∧ ∀ s ∈ sections .volume, s.1 ≠ who) ∨
    ∃ volume, TookTurn v (sections .volume) who delta volume ∧ r = .ok () ∧
      course.told = [.volumeChanged volume] := by
  cases hr with
  | refused hblocks htold =>
    have horder := h.order .volume who course hcourse
    have hunder : course.under .volume = [] := by
      unfold Course.under
      rw [hblocks]
      rfl
    rw [hunder, List.map_eq_nil_iff, List.filter_eq_nil_iff] at horder
    exact Or.inl ⟨_, rfl, htold, fun s hs heq => horder s hs (decide_eq_true heq)⟩
  | failed hblocks htold =>
    obtain ⟨before, after, -, hreports⟩ := h.section_of_block htruthful hcourse hblocks rfl
    cases hreports
  | @changed volume t hwhole hblocks htold =>
    obtain ⟨before, after, heq, hreports⟩ := h.section_of_block htruthful hcourse hblocks rfl
    cases hreports
    exact Or.inr ⟨_, ⟨before, _, after, heq, rfl, rfl⟩, rfl, htold⟩

/-- A change of the volume that was asked of the gateway itself took its turn. -/
theorem over_cases (h : Sectioned courses sections c) (htruthful : Truthful v (sections .volume))
    (hcourse : courses[who]? = some course) {delta : Int16} {r : Except Error UInt8}
    (hr : Over (.adjustVolume delta) Course.start course r) :
    ∃ volume, TookTurn v (sections .volume) who delta volume ∧ r = .ok volume := by
  rcases hr with ⟨-, hnil⟩ | ⟨t, hwhole, rfl⟩
  · exact absurd hnil not_yields_nil_adjustVolume
  · obtain ⟨before, after, heq, hreports⟩ := h.section_of_block htruthful hcourse rfl rfl
    exact ⟨_, ⟨before, _, after, heq, rfl, rfl⟩, hreports⟩

end

/-! ## Runs -/

/-- Nothing but operations on the volume changes the level. -/
def Steady (backend : Backend σ) (level : σ → UInt8) (picks : List (Pick (Deed σ))) : Prop :=
  KeepsLevel backend level ∧
    ∀ change, .begin (.intervene change) ∈ picks → ∀ now s, level (change now s) = level s

/-- What holds of the courses of all deeds while they take turns, if the party was `p` in the beginning. -/
def Serial (level : σ → UInt8) (p : Party σ) (picks : List (Pick (Deed σ)))
    (courses : List (Course p.rules.preferredDevice)) (c : (venue backend).Scene) : Prop :=
  c.state.rules = p.rules ∧ ∃ sections, Sectioned courses sections c ∧ (Steady backend level picks →
    Levelled level (level p.service) courses (sections .volume) (c.holder .volume) c.state.service)

section
variable {p : Party σ} {picks : List (Pick (Deed σ))} {courses : List (Course p.rules.preferredDevice)}
  {c : (venue backend).Scene} {d : Deed σ}

theorem serial_start : Serial level p picks [] (Venue.Scene.start (venue backend) p) := by
  refine ⟨rfl, fun _ => [], ⟨?_, fun lock who => ⟨?_, ?_⟩, fun lock => rfl, ?_, ?_, ?_, ?_, ?_, ?_⟩,
    fun _ => ⟨fun _ => rfl, ?_, ?_⟩⟩
  · exact fun x hx => absurd hx List.not_mem_nil
  · intro hwho
    cases hwho
  · rintro ⟨course, hcourse, -⟩
    cases hcourse
  · exact fun lock s hs => absurd hs List.not_mem_nil
  · intro lock who course hcourse
    cases hcourse
  · intro who course hcourse
    cases hcourse
  · intro who course hcourse
    cases hcourse
  · intro who course op t hcourse
    cases hcourse
  · exact fun x hx => absurd hx List.not_mem_nil
  · intro who course hwho
    cases hwho
  · intro before s after heq
    cases before <;> cases heq

theorem level_effect (hsteady : Steady backend level picks) (hd : .begin d ∈ picks) (q : Party σ) :
    level (d.effect q).service = level q.service := by
  cases d with
  | intervene change => exact hsteady.2 change hd q.clock q.service
  | _ => rfl

theorem Serial.begun (h : Serial level p picks courses c) (hlength : courses.length = c.pending.length)
    (hd : .begin d ∈ picks) : Serial level p picks (courses ++ [Course.start]) (c.begun d) := by
  obtain ⟨hrules, sections, horderly, hlevelled⟩ := h
  refine ⟨?_, sections, horderly.begun hlength d, fun hsteady => ?_⟩
  · cases d <;> exact hrules
  · exact (hlevelled hsteady).begun horderly.holding (level_effect hsteady hd c.state)

theorem Serial.stepped (h : Serial level p picks courses c) {who : Nat} {a : Action}
    {next : a.Answer → Program interface d.Result} {course course' : Course p.rules.preferredDevice}
    (hwho : c.pending[who]? = some ⟨d, .ask a next⟩) (hcourse : courses[who]? = some course)
    (hadmits : (venue backend).admits a c.holder = true)
    (hmay : May course ⟨a, (serve backend a c.state).1⟩ course') :
    Serial level p picks (courses.set who course') (c.stepped who d a next) := by
  obtain ⟨hrules, sections, horderly, hlevelled⟩ := h
  refine ⟨?_, _, horderly.stepped hwho hcourse hadmits hmay, fun hsteady => ?_⟩
  · exact (rules_serve backend a c.state).1.trans hrules
  · have hlock := hmay.advance.atLock horderly hcourse hadmits .volume
    exact (hlevelled hsteady).stepped hsteady.1 hcourse rfl hlock

theorem serial_run (backend : Backend σ) (level : σ → UInt8) (p : Party σ) (picks : List (Pick (Deed σ))) :
    ∃ courses, Serial level p picks courses ((Venue.Scene.start (venue backend) p).run picks) ∧
      Venue.Scene.Stands May (fun d => d.Ended p.rules) courses
        ((Venue.Scene.start (venue backend) p).run picks) := by
  refine Venue.Scene.run_stands (Serial level p picks) ?_ ?_ serial_start
  · intro courses c d hd hlength h
    exact ⟨Course.start, Deed.follows h.1 d, h.begun hlength hd⟩
  · intro courses c who d a next course course' hlength hwho hcourse hadmits hmay h
    exact h.stepped hwho hcourse hadmits hmay

end

/-- **Commands are serialized.**  Let requests, ticks and operations of the gateway take turns in any order that
its locks allow, whatever the playback service answers.  Then the steps that are made under each of the two
locks are, in the order of time, whole operations one after the other, and the beginning of one more if the
lock is held; these are all operations on the player, or all on the volume, in the order in which each deed
makes them.  The volume is set to percentages only.

If the service keeps the level of the volume as it was set last, then the level is, when nobody holds the lock,
what all operations on the volume make of it in this order.  Each of them reports the level that those before it
left, and a guest who turns the volume up or down is refused, or the step took its turn and observers are told
what it made of the level.  The sums are never too large for the words that they are taken in. -/
theorem commands_serialized (backend : Backend σ) (level : σ → UInt8) (p : Party σ)
    (picks : List (Pick (Deed σ))) :
    let c := (Venue.Scene.start (venue backend) p).run picks
    ∃ (courses : List (Course p.rules.preferredDevice))
      (sections : Lock → List (Nat × Block p.rules.preferredDevice)),
      Sectioned courses sections c ∧
      (∀ (who : Nat) (d : Deed σ) (r : d.Result), c.pending[who]? = some ⟨d, .done r⟩ →
        ∃ course, courses[who]? = some course ∧ d.Ended p.rules course r) ∧
      (∀ x ∈ c.log, ∀ percent, x.request = .gateway (.call (.setVolume percent)) → percent ≤ 100) ∧
      (Steady backend level picks →
        (c.holder .volume = none →
          level c.state.service = levelAfter (level p.service) (sections .volume)) ∧
        Truthful (level p.service) (sections .volume) ∧
        (∀ (who : Nat) (session : SessionId) (action : Control) (delta : Int16) (r : Except Error Unit),
          c.pending[who]? = some ⟨.request (.control session action), .done r⟩ →
          volumeDelta? p.rules action = some delta →
          (∃ e, r = .error e ∧ told ((c.own who).map Venue.Step.exchanged) = [] ∧
            ∀ s ∈ sections .volume, s.1 ≠ who) ∨
          ∃ volume, TookTurn (level p.service) (sections .volume) who delta volume ∧ r = .ok () ∧
            told ((c.own who).map Venue.Step.exchanged) = [.volumeChanged volume]) ∧
        ∀ (who : Nat) (delta : Int16) (r : Except Error UInt8),
          c.pending[who]? = some ⟨.operate (.adjustVolume delta), .done r⟩ →
          ∃ volume, TookTurn (level p.service) (sections .volume) who delta volume ∧ r = .ok volume) ∧
      ∀ step volume : UInt8,
        let up := Int16.ofNat step.toNat
        (Gateway.target volume up).toInt = volume.toNat + step.toNat ∧
        (Gateway.target volume (-up)).toInt = volume.toNat - step.toNat ∧
        (Gateway.stepped volume up).toNat = max 0 (min 100 ((volume.toNat : Int) + step.toNat)) ∧
        (Gateway.stepped volume (-up)).toNat = max 0 (min 100 ((volume.toNat : Int) - step.toNat)) := by
  intro c
  obtain ⟨courses, ⟨-, sections, horderly, hlevelled⟩, hstands⟩ := serial_run backend level p picks
  have hended : ∀ (who : Nat) (d : Deed σ) (r : d.Result), c.pending[who]? = some ⟨d, .done r⟩ →
      ∃ course, courses[who]? = some course ∧ d.Ended p.rules course r := by
    intro who d r hwho
    have hlt : who < courses.length := hstands.length ▸ Venue.Scene.pending_lt hwho
    have hcourse := List.getElem?_eq_getElem hlt
    exact ⟨_, hcourse, hstands.follows who _ _ hcourse hwho⟩
  refine ⟨courses, sections, horderly, hended, fun x hx percent hcall => ?_, fun hsteady => ?_,
    fun step volume => ?_⟩
  · exact horderly.percent_le hstands.length hx hcall
  · have hlevel := hlevelled hsteady
    refine ⟨hlevel.free, hlevel.truthful, fun who session action delta r hwho hdelta => ?_,
      fun who delta r hwho => ?_⟩
    · obtain ⟨course, hcourse, -, hsettled⟩ := hended who (.request (.control session action)) r hwho
      rw [horderly.told who course hcourse]
      exact settled_cases horderly hlevel.truthful hcourse (hsettled delta hdelta)
    · obtain ⟨course, hcourse, -, hover⟩ := hended who (.operate (.adjustVolume delta)) r hwho
      exact over_cases horderly hlevel.truthful hcourse hover
  · have hstep := step.toNat_lt
    have hup := Gateway.toInt_step step
    have hdown := Gateway.toInt_neg_step step
    have hsum : (Gateway.target volume (Int16.ofNat step.toNat)).toInt = _ :=
      Gateway.toInt_target volume (by omega) (by omega)
    have hsum' : (Gateway.target volume (-Int16.ofNat step.toNat)).toInt = _ :=
      Gateway.toInt_target volume (by omega) (by omega)
    rw [hup] at hsum
    rw [hdown] at hsum'
    dsimp only
    rw [Gateway.toNat_stepped, Gateway.toNat_stepped, hsum, hsum']
    omega

/-- A service that is nothing but the level of its volume. -/
def dial : Backend UInt8 where
  name := fun _ => "dial"
  suspends := fun _ => true
  serve := fun _ c v => match c with
    | .volume => ((.ok (some v) : Except Error (Option UInt8)), v)
    | .setVolume percent => ((.ok () : Except Error Unit), percent)
    | _ => (.error default, v)

theorem keepsLevel_dial : KeepsLevel dial id := by
  refine ⟨fun _ _ => rfl, fun _ _ _ _ => ⟨rfl, rfl⟩, fun now call v hcall => ?_⟩
  cases call with
  | setVolume percent => exact absurd rfl (hcall percent)
  | _ => rfl

/-- A guest turns the volume up and another one turns it down, both at the same time. -/
def upAndDown : List (Pick (Deed UInt8)) :=
  [.begin (.request (.openSession none none)), .proceed 0,
    .begin (.request (.control ⟨"s"⟩ .volumeUp)), .begin (.request (.control ⟨"s"⟩ .volumeDown))] ++
  [1, 2, 1, 2, 1, 1, 1, 2, 1, 2, 2, 2, 2].map .proceed

/-- The scene after both are over. -/
def turnedUpAndDown : (venue dial).Scene :=
  (Venue.Scene.start (venue dial)
    (Party.new ⟨none, none, 10⟩ ⟨2000, 5, 10000⟩ (fun _ => ⟨"s"⟩) 95 default)).run upAndDown

theorem turnedUp : turnedUpAndDown.pending[1]? =
    some ⟨.request (.control ⟨"s"⟩ .volumeUp), .done (.ok () : Except Error Unit)⟩ := rfl

theorem turnedDown : turnedUpAndDown.pending[2]? =
    some ⟨.request (.control ⟨"s"⟩ .volumeDown), .done (.ok () : Except Error Unit)⟩ := rfl

theorem toldUp : told ((turnedUpAndDown.own 1).map Venue.Step.exchanged) = [.volumeChanged 100] := rfl

theorem toldDown : told ((turnedUpAndDown.own 2).map Venue.Step.exchanged) = [.volumeChanged 90] := rfl

/-- The level was 95.  It was turned up first, to no more than 100, and down then. -/
theorem commands_serialized_up_and_down :
    Steady dial id upAndDown ∧ turnedUpAndDown.holder .volume = none ∧ turnedUpAndDown.state.service = 90 ∧
      ∃ sections : List (Nat × Block none), levelAfter 95 sections = 90 ∧ Truthful 95 sections ∧
        TookTurn 95 sections 1 10 100 ∧ TookTurn 95 sections 2 (-10) 90 := by
  have hsteady : Steady dial id upAndDown := by
    refine ⟨keepsLevel_dial, fun change hchange => ?_⟩
    simp [upAndDown] at hchange
  have hholder : turnedUpAndDown.holder .volume = none := by decide +kernel
  have hservice : turnedUpAndDown.state.service = 90 := by decide +kernel
  obtain ⟨_, sections, -, -, -, hlevels, -⟩ := commands_serialized dial id
    (Party.new ⟨none, none, 10⟩ ⟨2000, 5, 10000⟩ (fun _ => ⟨"s"⟩) 95 default) upAndDown
  obtain ⟨hlevel, htruthful, hsettled, -⟩ := hlevels hsteady
  have hup := hsettled 1 ⟨"s"⟩ .volumeUp 10 (.ok ()) turnedUp (by decide +kernel)
  have hdown := hsettled 2 ⟨"s"⟩ .volumeDown (-10) (.ok ()) turnedDown (by decide +kernel)
  obtain ⟨_, he, -⟩ | ⟨up, hup, -, htold⟩ := hup
  · cases he
  obtain ⟨_, he, -⟩ | ⟨down, hdown, -, htold'⟩ := hdown
  · cases he
  cases toldUp.symm.trans htold
  cases toldDown.symm.trans htold'
  exact ⟨hsteady, hholder, hservice, sections .volume, (hlevel hholder).symm.trans hservice, htruthful, hup,
    hdown⟩

end Jukebox.Party
