import Jukebox.Player
import Jukebox.Proofs.Gateway.Play

/-!
# Which commands are issued

A track is started with success exactly if the devices are listed, what is loaded is asked for, the chosen
device is made active where nothing is, and the track is started on it, each with success and in this order
(`Performed`, `yields_play_ok_iff`).  The device is the first of the preferred name, or the first of all
(`Chosen`, `select_eq_ok_iff`).

Resuming and pausing first ask what is loaded, and issue their command exactly where it makes a difference
(`Commanding`); nothing else is exchanged, and all of this may be (`yields_resume_iff`, `yields_pause_iff`).
So where the reports follow the commands (`Heeds`), a command that was obeyed is not issued again
(`Heeds.quiet`).  The simulated player is such a service (`Player.heeds`).

The main statement puts these together (`commands_issued`).
-/

namespace Jukebox.Gateway

/-! ## The device -/

/-- The device to play on: the first of the preferred name, or the first of all if none has that name. -/
inductive Chosen (preferred : Option String) : List Device → Device → Prop
  | named {name : String} {before after : List Device} {device : Device} (hname : preferred = some name)
      (hdevice : device.name = name) (hbefore : ∀ d ∈ before, d.name ≠ name) :
      Chosen preferred (before ++ device :: after) device
  | first {rest : List Device} {device : Device}
      (hnone : ∀ name, preferred = some name → ∀ d ∈ device :: rest, d.name ≠ name) :
      Chosen preferred (device :: rest) device

theorem select_eq_ok_iff {preferred : Option String} {devices : List Device} {device : Device} :
    Device.select devices preferred = .ok device ↔ Chosen preferred devices device := by
  have hselect : Device.select devices preferred = .ok device ↔
      Device.select? devices preferred = some device := by
    unfold Device.select
    split <;> simp [*]
  rw [hselect]
  unfold Device.select?
  constructor
  · intro h
    split at h
    · next found hfound =>
      cases h
      obtain ⟨name, rfl, hfind⟩ := Option.bind_eq_some_iff.1 hfound
      obtain ⟨hdevice, before, after, rfl, hbefore⟩ := List.find?_eq_some_iff_append.1 hfind
      exact .named rfl (beq_iff_eq.1 hdevice) (by simpa using hbefore)
    · next hnone =>
      cases devices with
      | nil => cases h
      | cons d rest =>
        cases h
        refine .first fun name hname d hd => ?_
        subst hname
        simpa using List.find?_eq_none.1 hnone d hd
  · intro h
    cases h with
    | @named name before after device hname hdevice hbefore =>
      have hfind : (before ++ device :: after).find? (·.name == name) = some device :=
        List.find?_eq_some_iff_append.2 ⟨by simpa using hdevice, before, after, rfl, by simpa using hbefore⟩
      rw [hname, Option.bind_some, hfind]
    | @first rest device hnone =>
      have hfind : (preferred.bind fun name => (device :: rest).find? (·.name == name)) = none := by
        cases preferred with
        | none => rfl
        | some name =>
          refine List.find?_eq_none.2 fun d hd => ?_
          simpa using hnone name rfl d hd
      rw [hfind]
      rfl

theorem select_nil (preferred : Option String) : Device.select [] preferred = .error .noDevices := by
  cases preferred <;> rfl

/-! ## Starting a track -/

/-- What is exchanged while the transport is locked. -/
def locked (u : List (Exchange interface)) : List (Exchange interface) :=
  ⟨.acquire .transport, ()⟩ :: (u ++ [⟨.release .transport, ()⟩])

theorem yields_locked {α : Type} {body : Task α} {t : List (Exchange interface)} {r : Except Error α} :
    (holding .transport body).run.Yields t r ↔ ∃ u, t = locked u ∧ body.run.Yields u r := by
  constructor
  · intro h
    obtain ⟨u, hu, rfl⟩ := yields_holding h
    exact ⟨u, rfl, hu⟩
  · rintro ⟨u, rfl, hu⟩
    exact holding_yields hu

/-- A track is started on the chosen device, which is made active first exactly if nothing is loaded. -/
inductive Performed (preferred : Option String) (track : Track) : List (Exchange interface) → Prop
  | transferred {devices : List Device} {device : Device} {t₁ t₂ t₃ t₄ : List (Exchange interface)}
      (hdevices : Stage .devices t₁ (.ok devices)) (hdevice : Chosen preferred devices device)
      (hcurrent : Stage .current t₂ (.ok none)) (htransfer : Stage (.transfer device) t₃ (.ok ()))
      (hstart : Stage (.start track.id device) t₄ (.ok ())) :
      Performed preferred track (t₁ ++ (t₂ ++ (t₃ ++ t₄)))
  | loaded {devices : List Device} {device : Device} {playback : Playback}
      {t₁ t₂ t₃ : List (Exchange interface)}
      (hdevices : Stage .devices t₁ (.ok devices)) (hdevice : Chosen preferred devices device)
      (hcurrent : Stage .current t₂ (.ok (some playback)))
      (hstart : Stage (.start track.id device) t₃ (.ok ())) :
      Performed preferred track (t₁ ++ (t₂ ++ t₃))

section
variable {preferred : Option String} {track : Track} {t u : List (Exchange interface)}

theorem Playing.performed (h : Playing preferred track t (.ok ())) : Performed preferred track t := by
  cases h with
  | selected hdevices hselect hstarting =>
    have hdevice := select_eq_ok_iff.1 hselect
    cases hstarting with
    | transferred hcurrent htransfer hstart => exact .transferred hdevices hdevice hcurrent htransfer hstart
    | loaded hcurrent hstart => exact .loaded hdevices hdevice hcurrent hstart

theorem Performed.yields (h : Performed preferred track t) :
    (play preferred track).run.Yields (locked t) (.ok ()) := by
  refine holding_yields ?_
  cases h with
  | transferred hdevices hdevice hcurrent htransfer hstart =>
    refine Program.yields_bind_run.2 (Or.inl ⟨_, _, _, rfl, hdevices.yields, ?_⟩)
    rw [select_eq_ok_iff.2 hdevice]
    refine Program.yields_bind_run.2 (Or.inl ⟨[], _, _, rfl, .done _, ?_⟩)
    refine Program.yields_bind_run.2 (Or.inl ⟨_, _, _, rfl, hcurrent.yields, ?_⟩)
    exact Program.yields_bind_run.2 (Or.inl ⟨_, _, _, rfl, htransfer.yields, hstart.yields⟩)
  | loaded hdevices hdevice hcurrent hstart =>
    refine Program.yields_bind_run.2 (Or.inl ⟨_, _, _, rfl, hdevices.yields, ?_⟩)
    rw [select_eq_ok_iff.2 hdevice]
    refine Program.yields_bind_run.2 (Or.inl ⟨[], _, _, rfl, .done _, ?_⟩)
    exact Program.yields_bind_run.2 (Or.inl ⟨_, _, _, rfl, hcurrent.yields, hstart.yields⟩)

theorem yields_play_ok_iff :
    (play preferred track).run.Yields t (.ok ()) ↔ ∃ u, t = locked u ∧ Performed preferred track u := by
  constructor
  · intro h
    obtain ⟨u, hu, rfl⟩ := yields_play h
    exact ⟨u, rfl, hu.performed⟩
  · rintro ⟨u, rfl, hu⟩
    exact hu.yields

/-- Where no device is listed, nothing more is asked of the service. -/
theorem yields_play_deviceless {v : List (Exchange interface)} {r : Except Error Unit}
    (h : (play preferred track).run.Yields t r) (ht : t = ⟨.acquire .transport, ()⟩ :: (u ++ v))
    (hdevices : Stage .devices u (.ok [])) : t = locked u ∧ r = .error .noDevices := by
  obtain ⟨t', hplaying, rfl⟩ := yields_play h
  obtain ⟨-, ht⟩ := List.cons.inj ht
  cases hplaying with
  | devicesFailed hfailed => cases (hfailed.unique hdevices ht).2
  | noDevice hlisted =>
    obtain ⟨rfl, -⟩ := hlisted.unique hdevices ht
    exact ⟨rfl, rfl⟩
  | selected hlisted hselect =>
    rw [List.append_assoc] at ht
    obtain ⟨-, hsame⟩ := hlisted.unique hdevices ht
    cases hsame
    rw [select_nil] at hselect
    cases hselect

end

/-! ## Resuming and pausing -/

/-- The call is made. -/
def Issues (c : Call) (t : List (Exchange interface)) : Prop :=
  ∃ answer, made c answer ∈ t

/-- The first thing that is asked once the transport is locked is what is loaded, and this comes of it. -/
def Reports (t : List (Exchange interface)) (answer : Except Error (Option Playback)) : Prop :=
  ∃ u v, Stage .current u answer ∧ t = ⟨.acquire .transport, ()⟩ :: (u ++ v)

/-- A command that is issued exactly where it is `wanted`, once it was asked what is loaded, and that comes to
`nothing` where nothing is loaded. -/
inductive Commanding (wanted : Playback → Bool) (nothing : Except Error Unit)
    (command : List (Exchange interface) → Except Error Unit → Prop) :
    List (Exchange interface) → Except Error Unit → Prop
  /-- It cannot be told what is loaded, and the failure to tell is the result. -/
  | unknown {t e} : Stage .current t (.error e) → Commanding wanted nothing command t (.error e)
  | unloaded {t} : Stage .current t (.ok none) → Commanding wanted nothing command t nothing
  | needless {t playback} : Stage .current t (.ok (some playback)) → wanted playback = false →
      Commanding wanted nothing command t (.ok ())
  /-- The result is that of the command. -/
  | issued {t u playback r} : Stage .current t (.ok (some playback)) → wanted playback = true →
      command u r → Commanding wanted nothing command (t ++ u) r

section
variable {wanted : Playback → Bool} {nothing r : Except Error Unit} {t u : List (Exchange interface)}
  {command : List (Exchange interface) → Except Error Unit → Prop}

/-- Asks what is loaded, and goes on as that suggests. -/
theorem yields_commanding {absent : Task Unit} {loaded : Playback → Task Unit}
    (habsent : ∀ {v r}, absent.run.Yields v r ↔ v = [] ∧ r = nothing)
    (hneedless : ∀ {playback v r}, wanted playback = false →
      ((loaded playback).run.Yields v r ↔ v = [] ∧ r = .ok ()))
    (hwanted : ∀ {playback v r}, wanted playback = true →
      ((loaded playback).run.Yields v r ↔ command v r)) :
    (do
      match (← stage .current : Option Playback) with
      | none => absent
      | some playback => loaded playback : Task Unit).run.Yields t r ↔
        Commanding wanted nothing command t r := by
  rw [Program.yields_bind_run]
  constructor
  · rintro (⟨t₁, t₂, playback, rfl, hcurrent, hrest⟩ | ⟨e, he, rfl⟩)
    · cases (playback : Option Playback) with
      | none =>
        obtain ⟨rfl, rfl⟩ := habsent.1 hrest
        rw [List.append_nil]
        exact .unloaded (yields_stage hcurrent)
      | some playback =>
        cases hplayback : wanted playback with
        | false =>
          obtain ⟨rfl, rfl⟩ := (hneedless hplayback).1 hrest
          rw [List.append_nil]
          exact .needless (yields_stage hcurrent) hplayback
        | true => exact .issued (yields_stage hcurrent) hplayback ((hwanted hplayback).1 hrest)
    · exact .unknown (yields_stage he)
  · intro h
    cases h with
    | unknown hcurrent => exact Or.inr ⟨_, hcurrent.yields, rfl⟩
    | unloaded hcurrent =>
      exact Or.inl ⟨t, [], none, (List.append_nil t).symm, hcurrent.yields, habsent.2 ⟨rfl, rfl⟩⟩
    | needless hcurrent hplayback =>
      exact Or.inl ⟨t, [], some _, (List.append_nil t).symm, hcurrent.yields,
        (hneedless hplayback).2 ⟨rfl, rfl⟩⟩
    | issued hcurrent hplayback hissued =>
      exact Or.inl ⟨_, _, some _, rfl, hcurrent.yields, (hwanted hplayback).2 hissued⟩

theorem yields_settled {α : Type} {x r : Except Error α} :
    (ExceptT.mk (pure x) : Task α).run.Yields t r ↔ t = [] ∧ r = x :=
  Program.yields_pure.trans (and_congr_right fun _ => eq_comm)

theorem yields_stage_iff {c : Call} {r : Except Error c.Result} : (stage c).run.Yields t r ↔ Stage c t r :=
  ⟨yields_stage, Stage.yields⟩

theorem yields_ite_pos {α : Type} {c : Prop} [Decidable c] {x y : Task α} {r : Except Error α} (hc : c) :
    (if c then x else y).run.Yields t r ↔ x.run.Yields t r := by
  rw [if_pos hc]

theorem yields_ite_neg {α : Type} {c : Prop} [Decidable c] {x y : Task α} {r : Except Error α} (hc : ¬ c) :
    (if c then x else y).run.Yields t r ↔ y.run.Yields t r := by
  rw [if_neg hc]

theorem yields_resume_iff : resume.run.Yields t r ↔ ∃ u, t = locked u ∧
    Commanding (!·.isPlaying) (.error .nothingToResume) (Stage .resume) u r := by
  refine yields_locked.trans (exists_congr fun u => and_congr_right fun _ => ?_)
  refine yields_commanding yields_settled (fun {playback v r} hplaying => ?_) fun {playback v r} hstopped => ?_
  · have hplaying : playback.isPlaying = true := by simpa using hplaying
    exact (yields_ite_pos hplaying).trans yields_settled
  · have hstopped : ¬ playback.isPlaying = true := by simpa using hstopped
    exact (yields_ite_neg hstopped).trans yields_stage_iff

theorem yields_pause_iff : pause.run.Yields t r ↔ ∃ u, t = locked u ∧
    Commanding (·.isPlaying) (.ok ()) (Stage .pause) u r := by
  refine yields_locked.trans (exists_congr fun u => and_congr_right fun _ => ?_)
  refine yields_commanding yields_settled (fun {playback v r} hstopped => ?_) fun {playback v r} hplaying => ?_
  · exact (yields_ite_neg (Bool.eq_false_iff.1 hstopped)).trans yields_settled
  · exact (yields_ite_pos hplaying).trans yields_stage_iff

theorem Reports.unique {answer answer' : Except Error (Option Playback)} (h : Reports t answer)
    (h' : Reports t answer') : answer = answer' := by
  obtain ⟨u, v, hstage, rfl⟩ := h
  obtain ⟨u', v', hstage', heq⟩ := h'
  exact (hstage.unique hstage' (List.cons.inj heq).2).2

/-- What is asked for first is reported. -/
theorem Stage.reports {answer : Except Error (Option Playback)} {v : List (Exchange interface)}
    (h : Stage .current t answer) (hu : u = t ++ v) : Reports (locked u) answer := by
  subst hu
  refine ⟨t, v ++ [⟨.release .transport, ()⟩], h, ?_⟩
  unfold locked
  rw [List.append_assoc]

/-- A stage for one call issues no other one, apart from renewals. -/
theorem Stage.not_issues {c c' : Call} {r : Except Error c'.Result} (h : Stage c' t r) (hc : c ≠ c')
    (hrefresh : c ≠ .refresh) : ¬ Issues c t := by
  rintro ⟨answer, hx⟩
  rcases h.request_eq _ hx with hr | hr
  · exact hc (Action.call.inj hr)
  · exact hrefresh (Action.call.inj hr)

/-- A stage makes its call. -/
theorem Stage.issues {c : Call} {r : Except Error c.Result} (h : Stage c t r) : Issues c t := by
  cases h with
  | settled | notRenewed | repeated => exact ⟨_, List.mem_cons_self⟩

theorem issues_locked {c : Call} : Issues c (locked t) ↔ Issues c t := by
  refine exists_congr fun answer => ?_
  unfold locked
  rw [List.mem_cons, List.mem_append, List.mem_singleton]
  constructor
  · rintro (h | h | h)
    · cases h
    · exact h
    · cases h
  · exact fun h => Or.inr (Or.inl h)

/-- Every command begins with the question what is loaded. -/
theorem Commanding.reports (h : Commanding wanted nothing command u r) :
    ∃ answer, Reports (locked u) answer := by
  cases h with
  | unknown hcurrent | unloaded hcurrent | needless hcurrent =>
    exact ⟨_, hcurrent.reports (List.append_nil _).symm⟩
  | issued hcurrent => exact ⟨_, hcurrent.reports rfl⟩

theorem Commanding.unloaded_of_reports (h : Commanding wanted nothing command u r)
    (hreports : Reports (locked u) (.ok none)) : r = nothing := by
  cases h with
  | unloaded => rfl
  | unknown hcurrent | needless hcurrent =>
    cases (hcurrent.reports (List.append_nil _).symm).unique hreports
  | issued hcurrent => cases (hcurrent.reports rfl).unique hreports

/-- The command is issued exactly where something is loaded for which it is wanted. -/
theorem Commanding.issues_iff {c : Call} (h : Commanding wanted nothing command u r) (hc : c ≠ .current)
    (hrefresh : c ≠ .refresh) (hcommand : ∀ {v r}, command v r → Issues c v) :
    Issues c (locked u) ↔ ∃ playback, Reports (locked u) (.ok (some playback)) ∧ wanted playback = true := by
  have hsilent : ∀ {answer : Except Error (Option Playback)} {v}, Stage .current v answer → ¬ Issues c v :=
    fun hstage => hstage.not_issues hc hrefresh
  rw [issues_locked]
  constructor
  · intro hissues
    cases h with
    | unknown hcurrent | unloaded hcurrent | needless hcurrent => exact absurd hissues (hsilent hcurrent)
    | issued hcurrent hwanted => exact ⟨_, hcurrent.reports rfl, hwanted⟩
  · rintro ⟨playback, hreports, hwanted⟩
    cases h with
    | unknown hcurrent | unloaded hcurrent =>
      cases (hcurrent.reports (List.append_nil _).symm).unique hreports
    | needless hcurrent hnot =>
      cases (hcurrent.reports (List.append_nil _).symm).unique hreports
      rw [hnot] at hwanted
      cases hwanted
    | issued _ _ hissued =>
      obtain ⟨answer, hx⟩ := hcommand hissued
      exact ⟨answer, List.mem_append_right _ hx⟩

end

/-! ## Commands that were obeyed -/

/-- What the service reports follows the commands: asking for it and renewing the credentials change nothing
of it, and what is loaded plays once it was resumed, and does not once it was paused. -/
structure Heeds {σ : Type} (backend : Backend σ) (now : Instant) (reported : σ → Option Playback) :
    Prop where
  asked : ∀ s playback, (backend.serve now .current s).1 = .ok playback → playback = reported s
  afterAsking : ∀ s, reported (backend.serve now .current s).2 = reported s
  afterRenewing : ∀ s, reported (backend.serve now .refresh s).2 = reported s
  resumed : ∀ s, (backend.serve now .resume s).1 = .ok () →
    ∀ playback, reported (backend.serve now .resume s).2 = some playback → playback.isPlaying = true
  paused : ∀ s, (backend.serve now .pause s).1 = .ok () →
    ∀ playback, reported (backend.serve now .pause s).2 = some playback → playback.isPlaying = false

section
variable {σ : Type} {backend : Backend σ} {now : Instant} {reported : σ → Option Playback} {s s' : σ}
  {t u : List (Exchange interface)}

/-- The last call of a stage that succeeds is its own. -/
theorem Stage.obeyed {c : Call} {a : c.Result} (h : Stage c u (.ok a))
    (hserved : Program.Served (serve backend now) s u s') :
    ∃ s₁, (backend.serve now c s₁).1 = .ok a ∧ s' = (backend.serve now c s₁).2 := by
  cases h with
  | settled =>
    obtain ⟨hanswer, hend⟩ := Program.served_cons.1 hserved
    exact ⟨s, hanswer.symm, Program.served_nil.1 hend⟩
  | repeated =>
    obtain ⟨-, hserved⟩ := Program.served_cons.1 hserved
    obtain ⟨-, hserved⟩ := Program.served_cons.1 hserved
    obtain ⟨hanswer, hend⟩ := Program.served_cons.1 hserved
    exact ⟨_, hanswer.symm, Program.served_nil.1 hend⟩

theorem served_locked (h : Program.Served (serve backend now) s (locked u) s') :
    Program.Served (serve backend now) s u s' := by
  obtain ⟨-, h⟩ := Program.served_cons.1 h
  obtain ⟨s₁, h, hrelease⟩ := Program.served_append.1 h
  obtain ⟨-, hend⟩ := Program.served_cons.1 hrelease
  obtain rfl := Program.served_nil.1 hend
  exact h

/-- What is reported is what is loaded, and it stays so. -/
theorem Heeds.current (heeds : Heeds backend now reported) {answer : Except Error Call.current.Result}
    (h : Stage .current u answer) (hserved : Program.Served (serve backend now) s u s') :
    reported s' = reported s ∧ ∀ playback, answer = .ok playback → playback = reported s := by
  cases h with
  | settled =>
    obtain ⟨hanswer, hend⟩ := Program.served_cons.1 hserved
    obtain rfl := Program.served_nil.1 hend
    exact ⟨heeds.afterAsking s, fun playback hok => heeds.asked s playback (hanswer.symm.trans hok)⟩
  | notRenewed =>
    obtain ⟨-, hserved⟩ := Program.served_cons.1 hserved
    obtain ⟨-, hend⟩ := Program.served_cons.1 hserved
    obtain rfl := Program.served_nil.1 hend
    exact ⟨(heeds.afterRenewing _).trans (heeds.afterAsking s), nofun⟩
  | repeated =>
    obtain ⟨-, hserved⟩ := Program.served_cons.1 hserved
    obtain ⟨-, hserved⟩ := Program.served_cons.1 hserved
    obtain ⟨hanswer, hend⟩ := Program.served_cons.1 hserved
    obtain rfl := Program.served_nil.1 hend
    have hbefore := (heeds.afterRenewing _).trans (heeds.afterAsking s)
    refine ⟨(heeds.afterAsking _).trans hbefore, fun playback hok => ?_⟩
    exact (heeds.asked _ playback (hanswer.symm.trans hok)).trans hbefore

/-- Once playback was resumed, there is nothing left that could be. -/
theorem Heeds.playing_of_stage (heeds : Heeds backend now reported) (h : Stage .resume u (.ok ()))
    (hserved : Program.Served (serve backend now) s u s') :
    ∀ playback, reported s' = some playback → (!playback.isPlaying) = false := by
  obtain ⟨s₁, hok, rfl⟩ := h.obeyed hserved
  intro playback hplayback
  rw [heeds.resumed s₁ hok playback hplayback]
  rfl

/-- Once playback was paused, there is nothing left that could be. -/
theorem Heeds.stopped_of_stage (heeds : Heeds backend now reported) (h : Stage .pause u (.ok ()))
    (hserved : Program.Served (serve backend now) s u s') :
    ∀ playback, reported s' = some playback → playback.isPlaying = false := by
  obtain ⟨s₁, hok, rfl⟩ := h.obeyed hserved
  exact heeds.paused s₁ hok

variable {wanted : Playback → Bool} {nothing : Except Error Unit}
  {command : List (Exchange interface) → Except Error Unit → Prop}

/-- Where a command is not reported to be wanted any more once it is obeyed, it is not wanted afterwards. -/
theorem Commanding.settled (heeds : Heeds backend now reported)
    (hcommand : ∀ {v s s'}, command v (.ok ()) → Program.Served (serve backend now) s v s' →
      ∀ playback, reported s' = some playback → wanted playback = false)
    (h : Commanding wanted nothing command u (.ok ())) (hserved : Program.Served (serve backend now) s u s') :
    ∀ playback, reported s' = some playback → wanted playback = false := by
  intro playback hplayback
  generalize hr : (Except.ok () : Except Error Unit) = r at h
  cases h with
  | unknown => cases hr
  | unloaded hcurrent =>
    obtain ⟨hsame, hreported⟩ := heeds.current hcurrent hserved
    rw [hsame, ← hreported none rfl] at hplayback
    cases hplayback
  | needless hcurrent hnot =>
    obtain ⟨hsame, hreported⟩ := heeds.current hcurrent hserved
    rw [hsame, ← hreported _ rfl] at hplayback
    cases hplayback
    exact hnot
  | issued _ _ hissued =>
    subst hr
    obtain ⟨s₁, -, hserved⟩ := Program.served_append.1 hserved
    exact hcommand hissued hserved playback hplayback

/-- A command that was obeyed is not issued again. -/
theorem Heeds.quiet (heeds : Heeds backend now reported) {x : Task Unit} {c : Call}
    (hx : ∀ {t r}, x.run.Yields t r → ∃ u, t = locked u ∧ Commanding wanted nothing command u r)
    (hissues : ∀ {u r}, Commanding wanted nothing command u r → (Issues c (locked u) ↔
      ∃ playback, Reports (locked u) (.ok (some playback)) ∧ wanted playback = true))
    (hcommand : ∀ {v s s'}, command v (.ok ()) → Program.Served (serve backend now) s v s' →
      ∀ playback, reported s' = some playback → wanted playback = false)
    (hok : (run backend now x s).1 = .ok ()) :
    ¬ Issues c (x.run.trace (serve backend now) (run backend now x s).2) := by
  have hfirst := Program.ends_run x.run (serve backend now) s
  have hsecond := Program.ends_run x.run (serve backend now) (run backend now x s).2
  obtain ⟨u, hu, hdone⟩ := hx hfirst.yields
  obtain ⟨v, hv, hagain⟩ := hx hsecond.yields
  rw [hv, hissues hagain]
  rintro ⟨playback, ⟨w, w', hcurrent, heq⟩, hwanted⟩
  have hserved := hfirst.served
  rw [hu] at hserved
  have hr : (x.run.run (serve backend now) s).1 = .ok () := hok
  rw [hr] at hdone
  -- what the second try is told is what the first one left behind
  have hnext := hsecond.served
  rw [hv, heq] at hnext
  obtain ⟨-, hnext⟩ := Program.served_cons.1 hnext
  obtain ⟨s₁, hnext, -⟩ := Program.served_append.1 hnext
  have hreported := (heeds.current hcurrent hnext).2 _ rfl
  have hnot := hdone.settled heeds hcommand (served_locked hserved) playback hreported.symm
  rw [hnot] at hwanted
  cases hwanted

end

end Jukebox.Gateway

/-! ## The simulated service -/

namespace Jukebox.Player

/-- What the simulated player reports when it is asked. -/
def reported (now : Instant) (player : Player) : Option Playback :=
  (player.unloadFinished now).loaded.map (·.playback now)

/-- A call that succeeds got through to the player. -/
theorem connected_of_ok {α : Type} {player : Player} {answer : Except Error α × Player} {a : α}
    (h : (player.connected answer).1 = .ok a) : player.connected answer = answer := by
  unfold connected at h ⊢
  split
  · next hoffline =>
    rw [if_pos hoffline] at h
    cases h
  · next honline =>
    rw [if_neg honline] at h
    split
    · rfl
    · next hexpired =>
      rw [if_neg hexpired] at h
      cases h

/-- What is reported after a call that succeeds is what its answer has loaded. -/
theorem loaded_of_reported {now : Instant} {player : Player} {answer : Except Error Unit × Player}
    {playback : Playback} (h : (player.connected answer).1 = .ok ())
    (hplayback : reported now (player.connected answer).2 = some playback) :
    answer.1 = .ok () ∧ ∃ l, answer.2.loaded = some l ∧ playback = l.playback now := by
  have hsame := connected_of_ok h
  rw [hsame] at h hplayback
  obtain ⟨l, hl, rfl⟩ := Option.map_eq_some_iff.1 hplayback
  exact ⟨h, l, (Option.filter_eq_some_iff.1 hl).1, rfl⟩

theorem isSome_resumedAt_resume (l : Loaded) (now : Instant) : (l.resume now).resumedAt.isSome = true := by
  unfold Loaded.resume
  cases hresumed : l.resumedAt with
  | none => rfl
  | some resumed => exact congrArg Option.isSome hresumed

/-- The simulated player heeds its commands. -/
theorem heeds (now : Instant) : Gateway.Heeds backend now (reported now) where
  asked player playback h := by
    have hanswer := congrArg Prod.fst (connected_of_ok h)
    exact Except.ok.inj (h.symm.trans hanswer)
  afterAsking player := by
    change reported now (connected _ _).2 = _
    unfold connected
    split
    · rfl
    · split
      · simp [reported, unloadFinished]
      · rfl
  afterRenewing player := by
    change reported now player.refresh.2 = _
    unfold refresh
    split
    · rfl
    · split <;> rfl
  resumed player h playback hplayback := by
    obtain ⟨hanswer, l', hl', rfl⟩ := loaded_of_reported h hplayback
    cases hloaded : player.loaded with
    | none =>
      rw [hloaded] at hanswer
      cases hanswer
    | some l =>
      rw [hloaded] at hl'
      cases hl'
      exact isSome_resumedAt_resume l now
  paused player h playback hplayback := by
    obtain ⟨-, l', hl', rfl⟩ := loaded_of_reported h hplayback
    obtain ⟨l, -, rfl⟩ := Option.map_eq_some_iff.1 hl'
    rfl

end Jukebox.Player

namespace Jukebox.Gateway

/-! ## The main statement -/

/-- **Which commands are issued**, whatever the service answers.  A track is started with success exactly if
all stages of that succeed, on the one device that is chosen; a failure has not started it, and where there is
no device, nothing but the devices is asked for.

To resume or to pause, it is asked first what is loaded, in every case.  If that cannot be told, this failure is
the result.  If nothing is loaded, resuming fails and pausing is done.  Playback is resumed exactly if something
is loaded that does not play, and paused exactly if something plays, and then the result is that of the command;
otherwise there is nothing to do.  All of this may be exchanged, and nothing else.  So where the reports follow
the commands, a second try right after a success issues no command. -/
theorem commands_issued (preferred : Option String) (track : Track) :
    (∀ t, (play preferred track).run.Yields t (.ok ()) ↔
      ∃ u, t = locked u ∧ Performed preferred track u) ∧
    (∀ t e, (play preferred track).run.Yields t (.error e) → t.filterMap startedIn = []) ∧
    (∀ t r u v, (play preferred track).run.Yields t r → t = ⟨.acquire .transport, ()⟩ :: (u ++ v) →
      Stage .devices u (.ok []) → t = locked u ∧ ∃ e, r = .error e ∧ e.kind = .noDeviceAvailable) ∧
    (∀ t r, resume.run.Yields t r ↔ ∃ u, t = locked u ∧
      Commanding (!·.isPlaying) (.error .nothingToResume) (Stage .resume) u r) ∧
    (∀ t r, resume.run.Yields t r → (∃ answer, Reports t answer) ∧
      (Issues .resume t ↔ ∃ playback, Reports t (.ok (some playback)) ∧ playback.isPlaying = false) ∧
      (Reports t (.ok none) → ∃ e, r = .error e ∧ e.kind = .invalidValue)) ∧
    (∀ t r, pause.run.Yields t r ↔ ∃ u, t = locked u ∧
      Commanding (·.isPlaying) (.ok ()) (Stage .pause) u r) ∧
    (∀ t r, pause.run.Yields t r → (∃ answer, Reports t answer) ∧
      (Issues .pause t ↔ ∃ playback, Reports t (.ok (some playback)) ∧ playback.isPlaying = true) ∧
      (Reports t (.ok none) → r = .ok ())) ∧
    ∀ {σ : Type} (backend : Backend σ) (now : Instant) (reported : σ → Option Playback),
      Heeds backend now reported → ∀ s,
        ((run backend now resume s).1 = .ok () →
          ¬ Issues .resume (resume.run.trace (serve backend now) (run backend now resume s).2)) ∧
        ((run backend now pause s).1 = .ok () →
          ¬ Issues .pause (pause.run.trace (serve backend now) (run backend now pause s).2)) := by
  have hresume : ∀ {u r}, Commanding (!·.isPlaying) (.error .nothingToResume) (Stage .resume) u r →
      (Issues .resume (locked u) ↔
        ∃ playback, Reports (locked u) (.ok (some playback)) ∧ (!playback.isPlaying) = true) :=
    fun h => h.issues_iff nofun nofun fun hstage => hstage.issues
  have hpause : ∀ {u r}, Commanding (·.isPlaying) (.ok ()) (Stage .pause) u r →
      (Issues .pause (locked u) ↔
        ∃ playback, Reports (locked u) (.ok (some playback)) ∧ playback.isPlaying = true) :=
    fun h => h.issues_iff nofun nofun fun hstage => hstage.issues
  refine ⟨fun t => yields_play_ok_iff, fun t e h => started_play h, fun t r u v h ht hdevices => ?_,
    fun t r => yields_resume_iff, fun t r h => ?_, fun t r => yields_pause_iff, fun t r h => ?_,
    fun backend now reported heeds s => ⟨?_, ?_⟩⟩
  · obtain ⟨hlocked, hr⟩ := yields_play_deviceless h ht hdevices
    exact ⟨hlocked, _, hr, rfl⟩
  · obtain ⟨u, rfl, hu⟩ := yields_resume_iff.1 h
    refine ⟨hu.reports, by simpa using hresume hu, fun hreports => ?_⟩
    exact ⟨_, hu.unloaded_of_reports hreports, rfl⟩
  · obtain ⟨u, rfl, hu⟩ := yields_pause_iff.1 h
    exact ⟨hu.reports, hpause hu, hu.unloaded_of_reports⟩
  · exact heeds.quiet yields_resume_iff.1 hresume heeds.playing_of_stage
  · exact heeds.quiet yields_pause_iff.1 hpause heeds.stopped_of_stage

/-- The credentials have expired.  A track that is loaded but does not play is resumed once, and one that plays is
paused once. -/
theorem commands_issued_once :
    let player (resumedAt : Option Instant) : Player := { Player.new [] with
      loaded := some ⟨⟨⟨"a"⟩, "A", "", "", 1000, ""⟩, 0, resumedAt⟩
      credentialsValid := false }
    let stopped := player none
    let playing := player (some ⟨0⟩)
    ((run Player.backend ⟨0⟩ resume stopped).1 = .ok () ∧
      Issues .resume (resume.run.trace (serve Player.backend ⟨0⟩) stopped) ∧
      ¬ Issues .resume
        (resume.run.trace (serve Player.backend ⟨0⟩) (run Player.backend ⟨0⟩ resume stopped).2)) ∧
    (run Player.backend ⟨0⟩ pause playing).1 = .ok () ∧
      Issues .pause (pause.run.trace (serve Player.backend ⟨0⟩) playing) ∧
      ¬ Issues .pause
        (pause.run.trace (serve Player.backend ⟨0⟩) (run Player.backend ⟨0⟩ pause playing).2) := by
  intro player stopped playing
  have hresumed : (run Player.backend ⟨0⟩ resume stopped).1 = .ok () := rfl
  have hpaused : (run Player.backend ⟨0⟩ pause playing).1 = .ok () := rfl
  obtain ⟨-, -, -, -, hresume, -, hpause, htwice⟩ := commands_issued none default
  have hsettled := htwice Player.backend ⟨0⟩ (Player.reported ⟨0⟩) (Player.heeds ⟨0⟩)
  refine ⟨⟨hresumed, ?_, (hsettled stopped).1 hresumed⟩, hpaused, ?_, (hsettled playing).2 hpaused⟩
  · have hrun := Program.ends_run resume.run (serve Player.backend ⟨0⟩) stopped
    exact (hresume _ _ hrun.yields).2.1.2 ⟨⟨_, false, 0⟩, ⟨_, _, .repeated rfl, rfl⟩, rfl⟩
  · have hrun := Program.ends_run pause.run (serve Player.backend ⟨0⟩) playing
    exact (hpause _ _ hrun.yields).2.1.2 ⟨⟨_, true, 0⟩, ⟨_, _, .repeated rfl, rfl⟩, rfl⟩

end Jukebox.Gateway
