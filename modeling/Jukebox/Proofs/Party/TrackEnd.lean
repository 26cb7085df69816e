import Jukebox.Proofs.Party.Pace
import Jukebox.Script

/-!
# The end of a track

From the start of a track on, the scheduler remembers how far the track had come at the last poll that
reported it (`Since.following`), and compares the next report with that alone (`Ticking.watched`).  So a track
is never taken to be over unless it is gone, or has stopped near its start after it had come further
(`never_skipped`); but a track that goes on near its start for one poll before it stops there is not taken to
be over at all (`left_iff_latest`, `end_missed`).

    Run          ticks one after the other
    Since        the polls since a track was started
    Following    what the scheduler remembers of them
    Watched      what a tick in `playing` comes to
-/

namespace Jukebox.Party

open Scheduler (State Memory Settings)

/-- Ticks one after the other from the memory `m` on, with what each exchanged. -/
inductive Run (settings : Settings) (preferred : Option String) (m : Memory) :
    List (List (Exchange interface)) → Memory → Prop
  | nil : Run settings preferred m [] m
  | snoc {m₁ m₂ : Memory} {ts : List (List (Exchange interface))} {t : List (Exchange interface)}
      {r : Except Error State} : Run settings preferred m ts m₁ → Ticked settings preferred m₁ t r m₂ →
      Run settings preferred m (ts ++ [t]) m₂

/-- A started track is awaited or plays. -/
def Attended (m : Memory) : Prop :=
  m.state = .checkPlaying ∨ m.state = .playing

/-- The track was started, and these were the polls since, the oldest first. -/
inductive Since (settings : Settings) (preferred : Option String) (track : Track) :
    List (Except Error (Option Playback)) → Memory → Prop
  | started {m m' : Memory} {t : List (Exchange interface)} {r : Except Error State} :
      Ticked settings preferred m t r m' → .start ∈ acts t → m'.requested = some track →
      Since settings preferred track [] m'
  | polled {polls : List (Except Error (Option Playback))} {m m' : Memory}
      {t : List (Exchange interface)} {r : Except Error State} {result : Except Error (Option Playback)} :
      Since settings preferred track polls m → Attended m → Ticked settings preferred m t r m' →
      .start ∉ acts t → Polls t result → Since settings preferred track (polls ++ [result]) m'

/-! ## How far a track had come -/

/-- How far a track is known to have come after one more poll. -/
def heard (track : Track) (progress : UInt64) : Except Error (Option Playback) → UInt64
  | .ok (some p) => if p.id = track.id then p.progress else progress
  | _ => progress

/-- How far a track had come at the last of some polls that reported it. -/
def lastHeard (track : Track) (polls : List (Except Error (Option Playback))) : UInt64 :=
  polls.foldl (heard track) 0

/-- A poll reports the track. -/
def ReportsOf (track : Track) (result : Except Error (Option Playback)) (p : Playback) : Prop :=
  result = .ok (some p) ∧ p.id = track.id

section
variable {track : Track} {polls : List (Except Error (Option Playback))}
  {result : Except Error (Option Playback)} {p : Playback}

theorem ReportsOf.heard (h : ReportsOf track result p) (progress : UInt64) :
    heard track progress result = p.progress := by
  obtain ⟨rfl, hid⟩ := h
  exact if_pos hid

theorem heard_of_not (h : ∀ p, ¬ ReportsOf track result p) (progress : UInt64) :
    heard track progress result = progress := by
  unfold Party.heard
  split
  · next p => exact if_neg fun hid => h p ⟨rfl, hid⟩
  · rfl

theorem lastHeard_concat : lastHeard track (polls ++ [result]) = heard track (lastHeard track polls) result :=
  List.foldl_append

/-- The last of some polls to report the track showed it further than a bound. -/
def LatestBeyond (track : Track) (bound : UInt64) (polls : List (Except Error (Option Playback))) : Prop :=
  ∃ before result after p, polls = before ++ result :: after ∧ ReportsOf track result p ∧ bound < p.progress ∧
    ∀ later ∈ after, ∀ q, ¬ ReportsOf track later q

theorem lt_lastHeard_iff {bound : UInt64} : bound < lastHeard track polls ↔ LatestBeyond track bound polls := by
  induction polls using List.reverseRecOn with
  | nil =>
    constructor
    · intro h
      exact absurd h UInt64.not_lt_zero
    · rintro ⟨before, result, after, p, heq, -⟩
      cases before <;> cases heq
  | append_singleton polls result ih =>
    rw [lastHeard_concat]
    by_cases hreports : ∃ p, ReportsOf track result p
    · obtain ⟨p, hp⟩ := hreports
      rw [hp.heard]
      constructor
      · intro h
        exact ⟨polls, result, [], p, rfl, hp, h, fun _ hlater => absurd hlater List.not_mem_nil⟩
      · rintro ⟨before, result', after, q, heq, hq, hbound, hafter⟩
        rcases concat_eq_append_cons heq with ⟨rfl, rfl, rfl⟩ | ⟨back, rfl, rfl⟩
        · cases hp.1.symm.trans hq.1
          exact hbound
        · exact absurd hp (hafter result (List.mem_append_right _ List.mem_cons_self) p)
    · have hnot : ∀ p, ¬ ReportsOf track result p := fun p hp => hreports ⟨p, hp⟩
      rw [heard_of_not hnot, ih]
      constructor
      · rintro ⟨before, result', after, q, rfl, hq, hbound, hafter⟩
        refine ⟨before, result', after ++ [result], q, by simp, hq, hbound, fun later hlater => ?_⟩
        rcases List.mem_append.1 hlater with hlater | hlater
        · exact hafter later hlater
        · obtain rfl := List.mem_singleton.1 hlater
          exact hnot
      · rintro ⟨before, result', after, q, heq, hq, hbound, hafter⟩
        rcases concat_eq_append_cons heq with ⟨rfl, rfl, rfl⟩ | ⟨back, rfl, rfl⟩
        · exact absurd hq (hnot q)
        · exact ⟨before, result', back, q, rfl, hq, hbound,
            fun later hlater => hafter later (List.mem_append_left _ hlater)⟩

end

/-! ## What the scheduler remembers of it -/

/-- The memory is that of a started track with these polls since. -/
structure Following (track : Track) (polls : List (Except Error (Option Playback))) (m : Memory) : Prop where
  requested : m.requested = some track
  progress : m.lastProgress = lastHeard track polls
  /-- A track that has come further than its start is not awaited any more. -/
  fresh : m.state = .checkPlaying → m.lastProgress = 0

section
variable {settings : Settings} {preferred : Option String} {track : Track} {m m' : Memory}
  {t : List (Exchange interface)} {r : Except Error State} {polls : List (Except Error (Option Playback))}
  {result : Except Error (Option Playback)} {playback : Option Playback}

/-- A track that is attended after choosing was handed over, and has come nowhere yet. -/
theorem Choosing.handed {r : Except Error (Option Track)} (h : Choosing preferred m t r m')
    (hattended : Attended m') : .start ∈ acts t ∧ ∃ track, Following track [] m' := by
  rw [h.acts_eq]
  cases h with
  | @intro t r hselecting =>
    match r with
    | .ok (some track) => exact ⟨by simp [actsUntil], track, rfl, rfl, fun _ => rfl⟩
    | .ok none => rcases hattended with hs | hs <;> cases hs
    | .error e => rcases hattended with hs | hs <;> cases hs

/-- A poll leads to an attended track only from one. -/
theorem Judged.attended {v : List (Exchange interface)} {next : State}
    (h : Judged settings m playback v next m') (hnext : next = .checkPlaying ∨ next = .playing) :
    Attended m := by
  cases h with
  | busy | unqueued | queued | lost | ended | gone => rcases hnext with hs | hs <;> cases hs
  | confirmed hstate => exact Or.inl hstate
  | missing hstate => exact Or.inl hstate
  | running hstate => exact Or.inr hstate

/-- A track is attended because it was started in this tick, or was attended before. -/
theorem Ticking.attended (h : Ticking settings preferred m t r m') (hattended : Attended m') :
    (.start ∈ acts t ∧ ∃ track, Following track [] m') ∨
      .start ∉ acts t ∧ Attended m ∧ ∃ result, Polls t result := by
  cases h with
  | failed hstate hpolling =>
    refine Or.inr ⟨?_, hattended, _, hpolling.polls_self _⟩
    rw [acts_cons, hpolling.acts_eq_nil]
    exact List.not_mem_nil
  | looked hpolling hjudged =>
    refine Or.inr ⟨?_, hjudged.attended hattended, _, hpolling.polls _ _⟩
    rw [acts_observing hpolling hjudged, acts_entering]
    exact List.not_mem_nil
  | chosen hpolling hjudged hchoosing =>
    rw [acts_observing hpolling hjudged, acts_append, acts_entering]
    exact Or.inl (hchoosing.handed hattended)
  | tried hstate hchoosing => exact Or.inl (hchoosing.handed hattended)

/-- What is made of a poll keeps to what was polled since the start. -/
theorem Judged.following {v : List (Exchange interface)} {next : State}
    (h : Judged settings m playback v next m') (hf : Following track polls m)
    (hnext : next = .checkPlaying ∨ next = .playing) :
    Following track (polls ++ [.ok playback]) { m' with state := next } := by
  cases h with
  | busy | unqueued | queued | lost | ended | gone => rcases hnext with hs | hs <;> cases hs
  | confirmed hstate hrequested hconfirmed =>
    cases hf.requested.symm.trans hrequested
    refine ⟨hf.requested, ?_, nofun⟩
    rw [lastHeard_concat, ReportsOf.heard ⟨rfl, id_eq_of_isConfirmed hconfirmed⟩]
  | missing hstate hmissing =>
    have hzero := hf.fresh hstate
    refine ⟨hf.requested, ?_, fun _ => hzero⟩
    rw [lastHeard_concat]
    by_cases hreports : ∃ p, ReportsOf track (.ok playback) p
    · -- a track that is reported and not confirmed has not come further than its start
      obtain ⟨p, hok, hid⟩ := hreports
      cases hok
      have hnot := hmissing track p hf.requested rfl
      simp only [Scheduler.isConfirmed, hid, beq_self_eq_true, Bool.true_and, Bool.or_eq_false_iff,
        decide_eq_false_iff_not] at hnot
      have hstart : p.progress = 0 := by simpa using hnot.2
      rw [ReportsOf.heard ⟨rfl, hid⟩, hstart]
      exact hzero
    · rw [heard_of_not fun p hp => hreports ⟨p, hp⟩]
      exact hf.progress
  | running hstate hrequested hid =>
    cases hf.requested.symm.trans hrequested
    refine ⟨hf.requested, ?_, nofun⟩
    rw [lastHeard_concat, ReportsOf.heard ⟨rfl, hid⟩]

/-- A tick keeps to what was polled since the start. -/
theorem Ticking.following (h : Ticking settings preferred m t r m') (hf : Following track polls m)
    (hattended : Attended m') (hstart : .start ∉ acts t) (hpolls : Polls t result) :
    Following track (polls ++ [result]) m' := by
  cases h with
  | failed hstate hpolling =>
    cases hpolls.unique (hpolling.polls_self _)
    refine ⟨hf.requested, ?_, hf.fresh⟩
    rw [lastHeard_concat]
    exact hf.progress
  | @looked t v playback now next m₁ hpolling hjudged =>
    cases hpolls.unique (hpolling.polls _ _)
    have hpolled : Following track polls (m.polled (.ok playback) now) := ⟨hf.requested, hf.progress, hf.fresh⟩
    exact hjudged.following hpolled hattended
  | chosen hpolling hjudged hchoosing =>
    rw [acts_observing hpolling hjudged, acts_append, acts_entering] at hstart
    exact absurd (hchoosing.handed hattended).1 hstart
  | tried hstate hchoosing => exact absurd (hchoosing.handed hattended).1 hstart

theorem Ticking.following_start (h : Ticking settings preferred m t r m') (hattended : Attended m')
    (hstart : .start ∈ acts t) (hrequested : m'.requested = some track) : Following track [] m' := by
  rcases h.attended hattended with ⟨-, track', hf⟩ | ⟨hnot, -⟩
  · cases hf.requested.symm.trans hrequested
    exact hf
  · exact absurd hstart hnot

/-- While a track is attended, the scheduler remembers how far it had come when it was last reported. -/
theorem Since.following (h : Since settings preferred track polls m) (hattended : Attended m) :
    Following track polls m := by
  induction h with
  | started hticked hstart hrequested => exact hticked.ticking.following_start hattended hstart hrequested
  | polled _ hbefore hticked hstart hpolls ih =>
    exact hticked.ticking.following (ih hbefore) hattended hstart hpolls

/-! ## What a tick in `playing` comes to -/

/-- A tick goes on with the track that plays, or leaves it because it is over. -/
inductive Watched (settings : Settings) (track : Track) (m : Memory) (t : List (Exchange interface))
    (m' : Memory) : Prop
  | on {result : Except Error (Option Playback)} (hpolls : Polls t result)
      (hon : ∀ playback, result = .ok playback →
        ¬ ShowsOver settings track (settings.endOfTrackThreshold < m.lastProgress) playback)
      (hacts : acts t = []) (hstate : m'.state = .playing) (hrequested : m'.requested = some track)
      (hprogress : m'.lastProgress = heard track m.lastProgress result)
  | off {playback : Option Playback} (hpolls : Polls t (.ok playback))
      (hover : ShowsOver settings track (settings.endOfTrackThreshold < m.lastProgress) playback)
      (hstate : m'.state ≠ .playing)

theorem not_showsOver {p : Playback} {previous : UInt64}
    (h : Scheduler.isFinished (some track) (some p) previous settings.endOfTrackThreshold = false) :
    ¬ ShowsOver settings track (settings.endOfTrackThreshold < previous) (some p) := by
  intro hover
  rw [Scheduler.isFinished_iff.2 (hover p rfl)] at h
  cases h

theorem following_ne_playing (r : Except Error (Option Track)) : following r ≠ .playing := by
  unfold Party.following
  split <;> exact nofun

theorem Choosing.state_ne_playing {r : Except Error (Option Track)} (h : Choosing preferred m t r m') :
    m'.state ≠ .playing := by
  cases h with
  | intro => exact following_ne_playing _

/-- A tick in `playing` goes on exactly if its poll does not show the track over. -/
theorem Ticking.watched (h : Ticking settings preferred m t r m') (hstate : m.state = .playing)
    (hrequested : m.requested = some track) : Watched settings track m t m' := by
  cases h with
  | failed _ hpolling =>
    exact .on (hpolling.polls_self _) nofun hpolling.acts_eq_nil hstate hrequested rfl
  | @looked t v playback now next m₁ hpolling hjudged hnext =>
    have hacts : acts (⟨.readMemory, m⟩ :: (t ++ (v ++ entering m₁ next))) = [] :=
      (acts_observing hpolling hjudged).trans (acts_entering m₁ next)
    cases hjudged with
    | busy hs | unqueued hs | confirmed hs | missing hs | lost hs => cases hstate.symm.trans hs
    | queued | ended | gone => exact absurd rfl hnext
    | running hs hrequested' hid hrunning =>
      cases hrequested.symm.trans hrequested'
      refine .on (hpolling.polls _ _) (fun playback hok => ?_) hacts rfl hrequested ?_
      · cases hok
        exact not_showsOver hrunning
      · exact (ReportsOf.heard ⟨rfl, hid⟩ _).symm
  | chosen hpolling hjudged hchoosing =>
    refine .off (hpolling.polls _ _) ?_ hchoosing.state_ne_playing
    cases hjudged with
    | queued hs => cases hstate.symm.trans hs
    | ended hs hrequested' hid hended =>
      cases hrequested.symm.trans hrequested'
      intro p hp
      cases hp
      exact Scheduler.isFinished_iff.1 hended
    | gone hs hgone => exact fun p hp => Or.inl (hgone track p hrequested hp)
  | tried hs => cases hstate.symm.trans hs

/-- While the polls fail, or report the track in a way that never ends it, the scheduler follows it. -/
theorem Run.stays {ts : List (List (Exchange interface))} (h : Run settings preferred m ts m')
    (hstate : m.state = .playing) (hrequested : m.requested = some track) {calm : Playback → Prop}
    (bound : UInt64 → Prop) (hbound : bound m.lastProgress) (hcalm : ∀ p, calm p → bound p.progress)
    (hends : ∀ p progress, calm p → bound progress → ¬ (p.isPlaying = false ∧
      p.progress < settings.endOfTrackThreshold ∧ settings.endOfTrackThreshold < progress))
    (hpolls : ∀ t ∈ ts, ∀ playback, Polls t (.ok playback) → ∃ p, ReportsOf track (.ok playback) p ∧ calm p) :
    m'.state = .playing ∧ ∀ t ∈ ts, acts t = [] := by
  suffices hall : (m'.state = .playing ∧ m'.requested = some track ∧ bound m'.lastProgress) ∧
      ∀ t ∈ ts, acts t = [] from ⟨hall.1.1, hall.2⟩
  induction h with
  | nil => exact ⟨⟨hstate, hrequested, hbound⟩, fun t ht => absurd ht List.not_mem_nil⟩
  | @snoc m₁ m₂ ts t r _ hticked ih =>
    obtain ⟨⟨hstate₁, hrequested₁, hbound₁⟩, hquiet⟩ := ih fun u hu => hpolls u (List.mem_append_left _ hu)
    have hlast := hpolls t (List.mem_append_right _ List.mem_cons_self)
    cases hticked.ticking.watched hstate₁ hrequested₁ with
    | @on result hresult hon hacts hs hr hprogress =>
      refine ⟨⟨hs, hr, ?_⟩, List.forall_mem_append.2 ⟨hquiet, List.forall_mem_singleton.2 hacts⟩⟩
      rw [hprogress]
      cases result with
      | error e => exact hbound₁
      | ok playback =>
        obtain ⟨p, hreports, hp⟩ := hlast playback hresult
        rw [hreports.heard]
        exact hcalm p hp
    | off hresult hover =>
      obtain ⟨p, ⟨hok, hid⟩, hp⟩ := hlast _ hresult
      cases hok
      rcases hover p rfl with hne | hstopped
      · exact absurd hid hne
      · exact absurd hstopped (hends p _ hp hbound₁)

/-! ## The main statements -/

theorem ShowsOver.mono {further further' : Prop} (h : ShowsOver settings track further playback)
    (himp : further → further') : ShowsOver settings track further' playback :=
  fun p hp => (h p hp).imp_right fun ⟨hstopped, hnear, hfurther⟩ => ⟨hstopped, hnear, himp hfurther⟩

/-- The ticks since a track that is attended was started. -/
theorem Run.since {ts : List (List (Exchange interface))} (h : Run settings preferred .new ts m)
    (hattended : Attended m) : ∃ before first since track polls, ts = before ++ first :: since ∧
      .start ∈ acts first ∧ (∀ t ∈ since, .start ∉ acts t) ∧ List.Forall₂ Polls since polls ∧
      Since settings preferred track polls m := by
  induction h with
  | nil => rcases hattended with hs | hs <;> cases hs
  | @snoc m₁ m₂ ts t r _ hticked ih =>
    rcases hticked.ticking.attended hattended with
      ⟨hstart, track, hf⟩ | ⟨hstart, hbefore, result, hpolls⟩
    · exact ⟨ts, t, [], track, [], rfl, hstart, fun t ht => absurd ht List.not_mem_nil, .nil,
        .started hticked hstart hf.requested⟩
    · obtain ⟨before, first, since, track, polls, rfl, hfirst, hnone, hall, hsince⟩ := ih hbefore
      refine ⟨before, first, since ++ [t], track, polls ++ [result], by simp, hfirst, ?_, ?_,
        .polled hsince hbefore hticked hstart hpolls⟩
      · exact List.forall_mem_append.2 ⟨hnone, List.forall_mem_singleton.2 hstart⟩
      · exact List.rel_append hall (.cons hpolls .nil)

/-- **No spurious skip.**  Whatever the ticks since the party began were: if a track plays, it was started, and
its polls since are those of the ticks since then.  A tick then leaves the track, or does anything to start
another, only if its own poll succeeded and reported nothing, or another track, or that the track has stopped
near its start after some poll since its start had reported it further on.  So while the polls fail or report
the track as playing, nothing happens. -/
theorem never_skipped (settings : Settings) (preferred : Option String) :
    (∀ ts m, Run settings preferred .new ts m → m.state = .playing →
      ∃ before first since track polls, ts = before ++ first :: since ∧ .start ∈ acts first ∧
        (∀ t ∈ since, .start ∉ acts t) ∧ List.Forall₂ Polls since polls ∧
        Since settings preferred track polls m) ∧
    ∀ track polls m, Since settings preferred track polls m → m.state = .playing →
      (∀ t r m', Ticked settings preferred m t r m' → m'.state ≠ .playing ∨ acts t ≠ [] →
        ∃ playback, Polls t (.ok playback) ∧ ShowsOver settings track
          (∃ result ∈ polls, ∃ p, ReportsOf track result p ∧ settings.endOfTrackThreshold < p.progress)
          playback) ∧
      ∀ ts m', Run settings preferred m ts m' →
        (∀ t ∈ ts, ∀ playback, Polls t (.ok playback) →
          ∃ p, ReportsOf track (.ok playback) p ∧ p.isPlaying = true) →
        m'.state = .playing ∧ ∀ t ∈ ts, acts t = [] := by
  refine ⟨fun ts m h hstate => h.since (Or.inr hstate), fun track polls m h hstate => ?_⟩
  have hf := h.following (Or.inr hstate)
  refine ⟨fun t r m' hticked hleaves => ?_, fun ts m' hrun hpolls => ?_⟩
  · cases hticked.ticking.watched hstate hf.requested with
    | on _ _ hacts hstays =>
      rcases hleaves with hne | hne
      · exact absurd hstays hne
      · exact absurd hacts hne
    | off hresult hover =>
      refine ⟨_, hresult, hover.mono fun hfurther => ?_⟩
      rw [hf.progress, lt_lastHeard_iff] at hfurther
      obtain ⟨before, result, after, p, rfl, hp, hbeyond, -⟩ := hfurther
      exact ⟨result, List.mem_append_right _ List.mem_cons_self, p, hp, hbeyond⟩
  · refine hrun.stays hstate hf.requested (fun _ => True) trivial (fun _ _ => trivial) ?_ hpolls
    rintro p progress hplaying - ⟨hstopped, -⟩
    cases hplaying.symm.trans hstopped

/-- **When the end of a track is seen.**  A poll reports that the track that plays has stopped near its start.
The scheduler leaves the track exactly if the last poll before that reported it had shown it further on; if
an earlier one had, but not the last, it stays, and starts nothing, for as long as the polls fail or report
the track there. -/
theorem left_iff_latest {t : List (Exchange interface)} {p : Playback}
    (h : Since settings preferred track polls m) (hstate : m.state = .playing)
    (hticked : Ticked settings preferred m t r m') (hpolls : Polls t (.ok (some p)))
    (hid : p.id = track.id) (hstopped : p.isPlaying = false)
    (hnear : p.progress < settings.endOfTrackThreshold) :
    (m'.state ≠ .playing ↔ LatestBeyond track settings.endOfTrackThreshold polls) ∧
    (m'.state = .playing → ∀ ts m'', Run settings preferred m' ts m'' →
      (∀ u ∈ ts, ∀ playback, Polls u (.ok playback) →
        ∃ q, ReportsOf track (.ok playback) q ∧ q.progress ≤ settings.endOfTrackThreshold) →
      m''.state = .playing ∧ ∀ u ∈ ts, acts u = []) := by
  have hf := h.following (Or.inr hstate)
  rw [← lt_lastHeard_iff, ← hf.progress]
  cases hticked.ticking.watched hstate hf.requested with
  | on hresult hon _ hstays hrequested hprogress =>
    cases hpolls.unique hresult
    have hnot : ¬ settings.endOfTrackThreshold < m.lastProgress := fun hfurther =>
      hon _ rfl fun q hq => by cases hq; exact Or.inr ⟨hstopped, hnear, hfurther⟩
    refine ⟨⟨fun hne => absurd hstays hne, fun hfurther => absurd hfurther hnot⟩,
      fun _ ts m'' hrun hreports => ?_⟩
    rw [ReportsOf.heard ⟨rfl, hid⟩] at hprogress
    refine hrun.stays hstays hrequested (· ≤ settings.endOfTrackThreshold) ?_ (fun _ => id) ?_ hreports
    · rw [hprogress]
      exact UInt64.le_of_lt hnear
    · rintro q progress - hbound ⟨-, -, hfurther⟩
      exact absurd hfurther (UInt64.not_lt.2 hbound)
  | off hresult hover hne =>
    cases hpolls.unique hresult
    refine ⟨⟨fun _ => ?_, fun _ => hne⟩, fun hstays => absurd hstays hne⟩
    rcases hover p rfl with hother | ⟨-, -, hfurther⟩
    · exact absurd hid hother
    · exact hfurther

end

/-! ### Tracks that stop at their start -/

section
variable {σ : Type} {backend : Backend σ} {p p' : Party σ} {settings : Settings} {preferred : Option String}

/-- A party keeps its rules. -/
theorem rules_served {t : List (Exchange interface)} (h : Program.Served (serve backend) p t p') :
    p'.scheduling = p.scheduling ∧ p'.rules = p.rules := by
  induction h with
  | nil p => exact ⟨rfl, rfl⟩
  | @cons a p p' t _ ih =>
    have hstep : (serve backend a p).2.scheduling = p.scheduling ∧ (serve backend a p).2.rules = p.rules := by
      cases a <;> exact ⟨rfl, rfl⟩
    exact ⟨ih.1.trans hstep.1, ih.2.trans hstep.2⟩

/-- A tick at a party that nothing else comes between. -/
theorem ticked_tick (backend : Backend σ) (p : Party σ) :
    Ticked p.scheduling p.rules.preferredDevice p.memory (Deed.tick.exchanges backend p)
      (p.runTick backend).1 (Deed.tick.after backend p).memory :=
  ticked_of_ends (Program.ends_run _ _ _)

end

/-- A track. -/
def openingTrack : Track :=
  ⟨⟨"a"⟩, "A", "", "", 180000, ""⟩

/-- A party after so many ticks.  The track and another one wait when it begins; in the second tick the track
is reported further on than the threshold, and from the third on as it is said here. -/
def reporting (reports : List (Option Playback)) : Nat → Party Script
  | 0 =>
    let queues := (Queue.Store.empty.enqueue openingTrack .normal).store
    let script : Script := ⟨fun
      | .current => [.ok none, .ok none, .ok (some ⟨openingTrack, true, 5000⟩)] ++ reports.map .ok
      | _ => [], []⟩
    { Party.new ⟨none, none, 10⟩ ⟨2000, 5, 1000⟩ (fun _ => ⟨"s"⟩) script default with
      store := (queues.enqueue ⟨⟨"b"⟩, "B", "", "", 180000, ""⟩ .normal).store }
  | n + 1 => Deed.tick.after Script.backend (reporting reports n)

section
variable {reports : List (Option Playback)} {n : Nat}

/-- The memory of a track that plays, with what was polled last. -/
def playingAt (isPlaying : Bool) (progress : UInt64) : Memory :=
  ⟨.playing, some openingTrack, 0, progress, some ⟨openingTrack, isPlaying, progress⟩, none, some default⟩

theorem ticked_reporting (reports : List (Option Playback)) (n : Nat) : ∃ r,
    Ticked ⟨2000, 5, 1000⟩ none (reporting reports n).memory
      (Deed.tick.exchanges Script.backend (reporting reports n)) r (reporting reports (n + 1)).memory := by
  have hrules : (reporting reports n).scheduling = ⟨2000, 5, 1000⟩ ∧
      (reporting reports n).rules = ⟨none, none, 10⟩ := by
    induction n with
    | zero => exact ⟨rfl, rfl⟩
    | succ n ih =>
      obtain ⟨r, hends⟩ := ends_deed_tick Script.backend (reporting reports n)
      have hsame := rules_served hends.served
      exact ⟨hsame.1.trans ih.1, hsame.2.trans ih.2⟩
  have hticked := ticked_tick Script.backend (reporting reports n)
  rw [hrules.1, hrules.2] at hticked
  exact ⟨_, hticked⟩

theorem polls_reporting (hattended : Attended (reporting reports n).memory)
    (hok : (reporting reports (n + 1)).memory.lastError = none) :
    Polls (Deed.tick.exchanges Script.backend (reporting reports n))
      (.ok (reporting reports (n + 1)).memory.lastPlayback) := by
  obtain ⟨r, hticked⟩ := ticked_reporting reports n
  refine hticked.ticking.polls (fun hstate => ?_) hok
  rcases hattended with hs | hs <;> cases hs.symm.trans hstate

/-- The second tick finds the track further on than the threshold. -/
theorem memory_reporting (reports : List (Option Playback)) :
    (reporting reports 2).memory = playingAt true 5000 := by
  cbv

theorem since_reporting (reports : List (Option Playback)) :
    Since ⟨2000, 5, 1000⟩ none openingTrack [.ok (some ⟨openingTrack, true, 5000⟩)]
      (reporting reports 2).memory := by
  have hmemory : (reporting reports 1).memory =
      ⟨.checkPlaying, some openingTrack, 0, 0, none, none, some default⟩ := by cbv
  have hstarts : acts (Deed.tick.exchanges Script.backend (reporting reports 0)) = [.pop, .play, .start] := by
    cbv
  have hquiet : acts (Deed.tick.exchanges Script.backend (reporting reports 1)) = [] := by cbv
  have hattended : Attended (reporting reports 1).memory := Or.inl (by rw [hmemory])
  obtain ⟨_, hfirst⟩ := ticked_reporting reports 0
  obtain ⟨_, hsecond⟩ := ticked_reporting reports 1
  have hpolls := polls_reporting hattended (by rw [memory_reporting]; rfl)
  rw [memory_reporting] at hpolls
  have hstarted : Since ⟨2000, 5, 1000⟩ none openingTrack [] (reporting reports 1).memory :=
    .started hfirst (by rw [hstarts]; decide) (by rw [hmemory])
  exact hstarted.polled hattended hsecond (by rw [hquiet]; exact List.not_mem_nil) hpolls

end

/-- The track stops at its start, directly after it was further on. -/
def stopping : Nat → Party Script :=
  reporting [some ⟨openingTrack, false, 0⟩]

/-- The track goes on at its start after it was further on, and then stops there. -/
def rewinding : Nat → Party Script :=
  reporting [some ⟨openingTrack, true, 0⟩, some ⟨openingTrack, false, 0⟩]

/-- A track that stops directly after it was further on is left. -/
theorem left_iff_latest_stopping :
    (stopping 2).memory.state = .playing ∧ (stopping 3).memory.state ≠ .playing := by
  have hstate : (stopping 2).memory.state = .playing := congrArg Memory.state (memory_reporting _)
  have hlast : (stopping 3).memory.lastPlayback = some ⟨openingTrack, false, 0⟩ := by cbv
  have hok : (stopping 3).memory.lastError = none := by cbv
  obtain ⟨r, hticked⟩ := ticked_reporting [some ⟨openingTrack, false, 0⟩] 2
  have hpolls := polls_reporting (Or.inr hstate) hok
  rw [show (reporting _ 3).memory.lastPlayback = _ from hlast] at hpolls
  refine ⟨hstate, (left_iff_latest (since_reporting _) hstate hticked hpolls rfl rfl (by decide)).1.2 ?_⟩
  exact ⟨[], _, [], _, rfl, ⟨rfl, rfl⟩, by decide, fun _ hlater => absurd hlater List.not_mem_nil⟩

/-- A track that goes on at its start before it stops there is not left, although it was further on and
another track waits. -/
theorem end_missed :
    Since ⟨2000, 5, 1000⟩ none openingTrack
      [.ok (some ⟨openingTrack, true, 5000⟩), .ok (some ⟨openingTrack, true, 0⟩)] (rewinding 3).memory ∧
    (rewinding 3).memory.state = .playing ∧
    (∃ r, Ticked ⟨2000, 5, 1000⟩ none (rewinding 3).memory
      (Deed.tick.exchanges Script.backend (rewinding 3)) r (rewinding 4).memory) ∧
    Polls (Deed.tick.exchanges Script.backend (rewinding 3)) (.ok (some ⟨openingTrack, false, 0⟩)) ∧
    (rewinding 4).memory.state = .playing ∧ (rewinding 4).store.isEmpty = false := by
  have hmemory₂ : (rewinding 2).memory = playingAt true 5000 := memory_reporting _
  have hmemory₃ : (rewinding 3).memory = playingAt true 0 := by cbv
  have hmemory₄ : (rewinding 4).memory = playingAt false 0 := by cbv
  have hquiet : acts (Deed.tick.exchanges Script.backend (rewinding 2)) = [] := by cbv
  have hplaying₂ : Attended (rewinding 2).memory := Or.inr (by rw [hmemory₂]; rfl)
  have hplaying₃ : Attended (rewinding 3).memory := Or.inr (by rw [hmemory₃]; rfl)
  have hpolls₂ := polls_reporting hplaying₂ (congrArg Memory.lastError hmemory₃)
  have hpolls₃ := polls_reporting hplaying₃ (congrArg Memory.lastError hmemory₄)
  rw [show (reporting _ (2 + 1)).memory.lastPlayback = _ from congrArg Memory.lastPlayback hmemory₃] at hpolls₂
  rw [show (reporting _ (3 + 1)).memory.lastPlayback = _ from congrArg Memory.lastPlayback hmemory₄] at hpolls₃
  obtain ⟨_, hthird⟩ := ticked_reporting [some ⟨openingTrack, true, 0⟩, some ⟨openingTrack, false, 0⟩] 2
  obtain ⟨_, hfourth⟩ := ticked_reporting [some ⟨openingTrack, true, 0⟩, some ⟨openingTrack, false, 0⟩] 3
  have hsince := (since_reporting _).polled hplaying₂ hthird (List.eq_nil_iff_forall_not_mem.1 hquiet _) hpolls₂
  exact ⟨hsince, congrArg Memory.state hmemory₃, ⟨_, hfourth⟩, hpolls₃, congrArg Memory.state hmemory₄, by cbv⟩

end Jukebox.Party
