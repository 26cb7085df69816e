import Jukebox.Proofs.Party.TrackEnd

/-!
# The confirmation of a started track

A started track is awaited until a poll confirms it, for as many successful polls as the settings allow.  While
it is awaited, the scheduler counts the successful polls since the start and nothing else (`Awaiting`), so what
the next poll comes to depends on this number and on what is polled (`Decided`).  The count begins anew with
every start (`Started.awaiting`), whatever was polled before, and stays below the limit (`Lasting.attempts_lt`).

    a started track is confirmed by its first confirming poll, or given up at the last poll allowed
                                                                                  (confirmation_bounded)
-/

namespace Jukebox.Party

open Scheduler (State Memory Settings)

/-- What is reported confirms the track: it is of this track, which runs or has come further than its start. -/
def Confirms (track : Track) (playback : Option Playback) : Prop :=
  ∃ p, playback = some p ∧ p.id = track.id ∧ (p.isPlaying = true ∨ 0 < p.progress)

/-- The number of polls that succeeded. -/
def successes (polls : List (Except Error (Option Playback))) : Nat :=
  polls.countP (·.isOk)

/-- The track was handed to the playback service, by a tick or for itself, and is to be confirmed. -/
inductive Started (settings : Settings) (preferred : Option String) (track : Track) : Memory → Prop
  | ticked {m m' : Memory} {t : List (Exchange interface)} {r : Except Error State} :
      Ticked settings preferred m t r m' → .start ∈ acts t → m'.requested = some track →
      Started settings preferred track m'
  | chosen {m m' : Memory} {t : List (Exchange interface)} :
      (nextTrack preferred).run.Yields t (.ok (some track)) → Remembers m t m' → m.state = .checkPlaying →
      Started settings preferred track m'

/-- What ticks, and tracks chosen between them, have made of the scheduler's memory since the party began. -/
inductive Lasting (settings : Settings) (preferred : Option String) : Memory → Prop
  | new : Lasting settings preferred .new
  | ticked {m m' : Memory} {t : List (Exchange interface)} {r : Except Error State} :
      Lasting settings preferred m → Ticked settings preferred m t r m' → Lasting settings preferred m'
  | chosen {m m' : Memory} {t : List (Exchange interface)} {r : Except Error (Option Track)} :
      Lasting settings preferred m → (nextTrack preferred).run.Yields t r → Remembers m t m' →
      Lasting settings preferred m'

/-- The track is awaited, and so many successful polls did not confirm it. -/
structure Awaiting (track : Track) (missed : Nat) (m : Memory) : Prop where
  state : m.state = .checkPlaying
  requested : m.requested = some track
  attempts : m.attempts.toNat = missed

/-- What the poll of a tick comes to after so many that did not confirm the track. -/
inductive Decided (settings : Settings) (track : Track) (missed : Nat) :
    Except Error (Option Playback) → Except Error State → Memory → Prop
  /-- A poll that fails does not count. -/
  | failed {e : Error} {m : Memory} (hawaiting : Awaiting track missed m) :
      Decided settings track missed (.error e) (.error e) m
  | confirmed {playback : Option Playback} {m : Memory} (hconfirms : Confirms track playback)
      (hstate : m.state = .playing) (hrequested : m.requested = some track) :
      Decided settings track missed (.ok playback) (.ok .playing) m
  | missing {playback : Option Playback} {m : Memory} (hmissing : ¬ Confirms track playback)
      (hleft : missed + 1 < settings.checkAttempts.toNat) (hawaiting : Awaiting track (missed + 1) m) :
      Decided settings track missed (.ok playback) (.ok .checkPlaying) m
  /-- The track is given up at the last poll allowed. -/
  | lost {playback : Option Playback} {m : Memory} (hmissing : ¬ Confirms track playback)
      (hlast : missed + 1 = settings.checkAttempts.toNat) (hstate : m.state = .idle)
      (hrequested : m.requested = none) : Decided settings track missed (.ok playback) (.ok .idle) m

section
variable {settings : Settings} {preferred : Option String} {track : Track} {m m' : Memory}
  {t : List (Exchange interface)} {r : Except Error State} {missed : Nat}
  {polls : List (Except Error (Option Playback))} {playback : Option Playback}

/-! ## One poll -/

theorem isConfirmed_iff {p : Playback} :
    Scheduler.isConfirmed track p = true ↔ Confirms track (some p) := by
  unfold Scheduler.isConfirmed Confirms
  rw [Bool.and_eq_true, Bool.or_eq_true, beq_iff_eq, decide_eq_true_iff]
  constructor
  · intro h
    exact ⟨p, rfl, h⟩
  · rintro ⟨q, hq, h⟩
    cases hq
    exact h

theorem not_confirms (h : Unconfirmed m playback) (hrequested : m.requested = some track) :
    ¬ Confirms track playback := by
  rintro ⟨p, rfl, hp⟩
  have hnot := h track p hrequested rfl
  rw [isConfirmed_iff.2 ⟨p, rfl, hp⟩] at hnot
  cases hnot

theorem successes_concat (polls : List (Except Error (Option Playback)))
    (result : Except Error (Option Playback)) :
    successes (polls ++ [result]) = successes polls + if result.isOk then 1 else 0 := by
  unfold successes
  rw [List.countP_append, List.countP_singleton]

/-- Below the limit there is room for one more poll. -/
theorem toNat_succ_attempts {limit : UInt32} (h : m.attempts < limit) :
    (m.attempts + 1).toNat = m.attempts.toNat + 1 := by
  have hlt := UInt32.lt_iff_toNat_lt.1 h
  have hsize : limit.toNat < UInt32.size := limit.toNat_lt_size
  have hroom : m.attempts.toNat + 1 < UInt32.size := by omega
  rw [UInt32.toNat_add]
  exact Nat.mod_eq_of_lt hroom

/-- A poll of an awaited track confirms it, or is counted. -/
theorem Judged.decided {v : List (Exchange interface)} {next : State}
    (h : Judged settings m playback v next m') (hawaiting : Awaiting track missed m)
    (hleft : missed < settings.checkAttempts.toNat) :
    next ≠ .playNextSong ∧
      Decided settings track missed (.ok playback) (.ok next) { m' with state := next } := by
  have hroom : m.attempts < settings.checkAttempts := by
    rw [UInt32.lt_iff_toNat_lt, hawaiting.attempts]
    exact hleft
  have hcount : (m.attempts + 1).toNat = missed + 1 := by
    rw [toNat_succ_attempts hroom, hawaiting.attempts]
  cases h with
  | busy hs | unqueued hs | queued hs | running hs | ended hs | gone hs => cases hawaiting.state.symm.trans hs
  | confirmed hs hrequested hconfirmed =>
    cases hawaiting.requested.symm.trans hrequested
    exact ⟨nofun, .confirmed (isConfirmed_iff.1 hconfirmed) rfl hawaiting.requested⟩
  | missing hs hmissing hattempts =>
    rw [UInt32.le_iff_toNat_le, hcount, not_le] at hattempts
    exact ⟨nofun, .missing (not_confirms hmissing hawaiting.requested) hattempts
      ⟨rfl, hawaiting.requested, hcount⟩⟩
  | lost hs hmissing hattempts =>
    rw [UInt32.le_iff_toNat_le, hcount] at hattempts
    exact ⟨nofun, .lost (not_confirms hmissing hawaiting.requested) (by omega) rfl rfl⟩

/-- A tick of a scheduler that awaits a track polls, and its poll decides. -/
theorem Ticking.decided (h : Ticking settings preferred m t r m') (hawaiting : Awaiting track missed m)
    (hleft : missed < settings.checkAttempts.toNat) :
    ∃ result, Polls t result ∧ Decided settings track missed result r m' := by
  cases h with
  | failed hstate hpolling =>
    exact ⟨_, hpolling.polls_self _, .failed ⟨hawaiting.state, hawaiting.requested, hawaiting.attempts⟩⟩
  | looked hpolling hjudged =>
    exact ⟨_, hpolling.polls _ _,
      (hjudged.decided ⟨hawaiting.state, hawaiting.requested, hawaiting.attempts⟩ hleft).2⟩
  | chosen hpolling hjudged =>
    exact absurd rfl
      (hjudged.decided ⟨hawaiting.state, hawaiting.requested, hawaiting.attempts⟩ hleft).1
  | tried hstate => cases hawaiting.state.symm.trans hstate

/-! ## From a start on -/

/-- The count begins anew with every start. -/
theorem Started.awaiting (h : Started settings preferred track m) : Awaiting track 0 m := by
  cases h with
  | @ticked m₁ _ t r hticked hstart hrequested =>
    have hhanded : ∀ {m₂ u result}, Choosing preferred m₂ u result m → .start ∈ acts u →
        Awaiting track 0 m := by
      intro m₂ u result hchoosing hu
      rw [hchoosing.acts_eq] at hu
      cases hchoosing with
      | @intro u result =>
        match result with
        | .ok (some _) => exact ⟨rfl, hrequested, rfl⟩
        | .ok none => simp [actsUntil] at hu
        | .error e => simp [actsUntil] at hu
    cases hticked.ticking with
    | failed _ hpolling =>
      rw [acts_cons, hpolling.acts_eq_nil] at hstart
      exact absurd hstart List.not_mem_nil
    | looked hpolling hjudged =>
      rw [acts_observing hpolling hjudged, acts_entering] at hstart
      exact absurd hstart List.not_mem_nil
    | chosen hpolling hjudged hchoosing =>
      rw [acts_observing hpolling hjudged, acts_append, acts_entering] at hstart
      exact hhanded hchoosing hstart
    | tried _ hchoosing => exact hhanded hchoosing hstart
  | chosen hyields hremembers hstate =>
    obtain rfl := (yields_nextTrack hyields).remembers hremembers
    exact ⟨hstate, rfl, rfl⟩

theorem exists_polls_concat {ts : List (List (Exchange interface))}
    (h : List.Forall₂ Polls (ts ++ [t]) polls) : ∃ before result,
      polls = before ++ [result] ∧ List.Forall₂ Polls ts before ∧ Polls t result := by
  have hback := List.forall₂_reverse_iff.2 h
  rw [List.reverse_concat, List.forall₂_cons_left_iff] at hback
  obtain ⟨result, back, hlast, hbefore, hreverse⟩ := hback
  refine ⟨back.reverse, result, ?_, ?_, hlast⟩
  · rw [← List.reverse_cons, ← hreverse, List.reverse_reverse]
  · rwa [← List.forall₂_reverse_iff, List.reverse_reverse]

/-- While no poll confirms the track and there are polls left, it is awaited. -/
theorem Run.awaiting {m₀ : Memory} {ts : List (List (Exchange interface))}
    (h : Run settings preferred m₀ ts m) (hstart : Awaiting track 0 m₀) (hpolls : List.Forall₂ Polls ts polls)
    (hnone : ∀ playback, .ok playback ∈ polls → ¬ Confirms track playback)
    (hleft : successes polls < settings.checkAttempts.toNat) : Awaiting track (successes polls) m := by
  induction h generalizing polls with
  | nil =>
    cases hpolls
    exact hstart
  | snoc _ hticked ih =>
    obtain ⟨before, result, rfl, hbefore, hlast⟩ := exists_polls_concat hpolls
    rw [successes_concat] at hleft ⊢
    have hawaiting := ih hbefore (fun playback h => hnone playback (List.mem_append_left _ h)) (by omega)
    obtain ⟨result', hresult, hdecided⟩ := hticked.ticking.decided hawaiting (by omega)
    cases hlast.unique hresult
    cases hdecided with
    | failed h => exact h
    | confirmed hconfirms => exact absurd hconfirms (hnone _ (List.mem_append_right _ List.mem_cons_self))
    | missing _ _ h => exact h
    | lost _ hgone =>
      -- A track is given up only when no poll is left.
      exact absurd hgone (Nat.ne_of_lt hleft)

/-! ## The count -/

/-- Wherever the exchange writes the memory, it keeps the count below a limit. -/
def KeepsBelow (limit : UInt32) : Exchange interface → Prop
  | ⟨.updateMemory change, _⟩ => ∀ m : Memory, m.attempts < limit → (change m).attempts < limit
  | _ => True

theorem attempts_lt_of_remembers {limit : UInt32} (h : ∀ x ∈ t, KeepsBelow limit x)
    (hremembers : Remembers m t m') (hm : m.attempts < limit) : m'.attempts < limit := by
  induction t generalizing m with
  | nil =>
    obtain rfl := hremembers
    exact hm
  | cons x t ih =>
    obtain ⟨hx, ht⟩ := List.forall_mem_cons.1 h
    obtain ⟨a, x⟩ := x
    cases a with
    | readMemory => exact ih ht hremembers.2 hm
    | updateMemory change => exact ih ht hremembers (hx m hm)
    | _ => exact ih ht hremembers hm

theorem keepsBelow_atGateway (limit : UInt32) (u : List (Exchange Gateway.interface)) :
    ∀ x ∈ u.map atGateway, KeepsBelow limit x := by
  rintro x hx
  obtain ⟨y, -, rfl⟩ := List.mem_map.1 hx
  exact trivial

theorem keepsBelow_committed (limit : UInt32) (op : Queue.Store.Operation) (reply : op.Reply)
    (change : Option Queue.Change) : ∀ x ∈ committed op reply change, KeepsBelow limit x := by
  cases change with
  | none => simp [committed, announced, KeepsBelow]
  | some change => simp [committed, announced, KeepsBelow]

theorem keepsBelow_entering (limit : UInt32) (m : Memory) (next : State) :
    ∀ x ∈ entering m next, KeepsBelow limit x := by
  unfold entering
  split <;> simp [KeepsBelow]

theorem Polling.keepsBelow {result : Except Error (Option Playback)} {now : Timestamp}
    (h : Polling t result now) (limit : UInt32) : ∀ x ∈ t, KeepsBelow limit x := by
  cases h with
  | failed =>
    refine List.forall_mem_append.2 ⟨keepsBelow_atGateway _ _, ?_⟩
    simp [KeepsBelow, Memory.polled]
  | reported =>
    refine List.forall_mem_append.2 ⟨keepsBelow_atGateway _ _, List.forall_mem_append.2 ⟨?_, ?_⟩⟩
    · simp [KeepsBelow, Memory.polled]
    · exact keepsBelow_committed _ _ _ _

theorem Judged.keepsBelow {v : List (Exchange interface)} {next : State}
    (h : Judged settings m playback v next m') (hlimit : 0 < settings.checkAttempts) :
    ∀ x ∈ v, KeepsBelow settings.checkAttempts x := by
  cases h with
  | busy | unqueued | queued | running | ended | gone => simp [KeepsBelow]
  | confirmed | lost => simpa [KeepsBelow] using fun _ _ => hlimit
  | missing _ _ hattempts => simpa [KeepsBelow] using fun _ _ => UInt32.not_le.1 hattempts

theorem Selecting.keepsBelow {r : Except Error (Option Track)} (h : Selecting preferred t r) {limit : UInt32}
    (hlimit : 0 < limit) : ∀ x ∈ t, KeepsBelow limit x := by
  cases h with
  | nothing => exact keepsBelow_committed _ _ _ _
  | handed =>
    refine List.forall_mem_append.2 ⟨keepsBelow_committed _ _ _ _, List.forall_mem_append.2
      ⟨keepsBelow_atGateway _ _, ?_⟩⟩
    simpa [KeepsBelow, Memory.requesting] using fun _ _ => hlimit
  | putBack =>
    exact List.forall_mem_append.2 ⟨keepsBelow_committed _ _ _ _, List.forall_mem_append.2
      ⟨keepsBelow_atGateway _ _, keepsBelow_committed _ _ _ _⟩⟩
  | givenUp => exact List.forall_mem_append.2 ⟨keepsBelow_committed _ _ _ _, keepsBelow_atGateway _ _⟩

theorem Choosing.keepsBelow {r : Except Error (Option Track)} (h : Choosing preferred m t r m')
    {limit : UInt32} (hlimit : 0 < limit) : ∀ x ∈ t, KeepsBelow limit x := by
  cases h with
  | intro hselecting =>
    exact List.forall_mem_append.2 ⟨hselecting.keepsBelow hlimit, keepsBelow_entering _ _ _⟩

/-- No step of a tick takes the count up to the limit. -/
theorem Ticking.keepsBelow (h : Ticking settings preferred m t r m') (hlimit : 0 < settings.checkAttempts) :
    ∀ x ∈ t, KeepsBelow settings.checkAttempts x := by
  cases h with
  | failed _ hpolling => exact List.forall_mem_cons.2 ⟨trivial, hpolling.keepsBelow _⟩
  | looked hpolling hjudged =>
    exact List.forall_mem_cons.2 ⟨trivial, List.forall_mem_append.2 ⟨hpolling.keepsBelow _,
      List.forall_mem_append.2 ⟨hjudged.keepsBelow hlimit, keepsBelow_entering _ _ _⟩⟩⟩
  | chosen hpolling hjudged hchoosing =>
    exact List.forall_mem_cons.2 ⟨trivial, List.forall_mem_append.2 ⟨hpolling.keepsBelow _,
      List.forall_mem_append.2 ⟨hjudged.keepsBelow hlimit,
        List.forall_mem_append.2 ⟨keepsBelow_entering _ _ _, hchoosing.keepsBelow hlimit⟩⟩⟩⟩
  | tried _ hchoosing => exact List.forall_mem_cons.2 ⟨trivial, hchoosing.keepsBelow hlimit⟩

/-- Whatever was done since the party began, the count is below the limit. -/
theorem Lasting.attempts_lt (h : Lasting settings preferred m) (hlimit : 0 < settings.checkAttempts) :
    m.attempts < settings.checkAttempts := by
  induction h with
  | new => exact hlimit
  | ticked _ hticked ih =>
    exact attempts_lt_of_remembers (hticked.ticking.keepsBelow hlimit) hticked.remembers ih
  | chosen _ hyields hremembers ih =>
    exact attempts_lt_of_remembers ((yields_nextTrack hyields).keepsBelow hlimit) hremembers ih

/-- **Bounded confirmation.**  A track was started, whatever was done before, and ticks followed.  As long as no
poll of theirs confirmed the track and fewer polls succeeded than the settings allow, it is awaited, and the poll
of the next tick decides: a failure changes nothing, a confirmation leads to `playing`, and another success is
counted, or is the last one, which leads to `idle` with no track requested.  The count is always below the limit,
within ticks, too, so that counting one more does not overflow. -/
theorem confirmation_bounded (hlimit : 0 < settings.checkAttempts) :
    (∀ track m₀, Started settings preferred track m₀ → ∀ ts polls m, Run settings preferred m₀ ts m →
      List.Forall₂ Polls ts polls → (∀ playback, .ok playback ∈ polls → ¬ Confirms track playback) →
      successes polls < settings.checkAttempts.toNat →
      Awaiting track (successes polls) m ∧ ∀ t r m', Ticked settings preferred m t r m' →
        ∃ result, Polls t result ∧ Decided settings track (successes polls) result r m') ∧
    ∀ m, Lasting settings preferred m →
      m.attempts < settings.checkAttempts ∧ (m.attempts + 1).toNat = m.attempts.toNat + 1 ∧
      ∀ t r m', Ticked settings preferred m t r m' → ∀ u v m₁, t = u ++ v → Remembers m u m₁ →
        m₁.attempts < settings.checkAttempts := by
  constructor
  · intro track m₀ hstarted ts polls m hrun hpolls hnone hleft
    have hawaiting := hrun.awaiting hstarted.awaiting hpolls hnone hleft
    exact ⟨hawaiting, fun t r m' hticked => hticked.ticking.decided hawaiting hleft⟩
  · intro m hlasting
    have hlt := hlasting.attempts_lt hlimit
    refine ⟨hlt, toNat_succ_attempts hlt, ?_⟩
    rintro t r m' hticked u v m₁ rfl hremembers
    have hsteps := hticked.ticking.keepsBelow hlimit
    exact attempts_lt_of_remembers (fun x hx => hsteps x (List.mem_append_left _ hx)) hremembers hlt

end

/-! ### A track that is not reported -/

/-- A party after so many ticks, at which a track may be missing twice.  The track waits when the party begins;
of the polls since its start the first one fails, the next one reports nothing, and the last one reports that
the track stands at its beginning. -/
def unreported : Nat → Party Script
  | 0 =>
    let script : Script := ⟨fun
      | .current => [.ok none, .ok none, .error ⟨.gatewayUnavailable, "offline"⟩, .ok none,
          .ok (some ⟨openingTrack, false, 0⟩)]
      | _ => [], []⟩
    { Party.new ⟨none, none, 10⟩ ⟨2000, 2, 1000⟩ (fun _ => ⟨"s"⟩) script default with
      store := (Queue.Store.empty.enqueue openingTrack .normal).store }
  | n + 1 => Deed.tick.after Script.backend (unreported n)

theorem ticked_unreported (n : Nat) :
    Ticked ⟨2000, 2, 1000⟩ none (unreported n).memory (Deed.tick.exchanges Script.backend (unreported n))
      ((unreported n).runTick Script.backend).1 (unreported (n + 1)).memory := by
  have hrules : (unreported n).scheduling = ⟨2000, 2, 1000⟩ ∧ (unreported n).rules = ⟨none, none, 10⟩ := by
    induction n with
    | zero => exact ⟨rfl, rfl⟩
    | succ n ih =>
      obtain ⟨r, hends⟩ := ends_deed_tick Script.backend (unreported n)
      have hsame := rules_served hends.served
      exact ⟨hsame.1.trans ih.1, hsame.2.trans ih.2⟩
  have hticked := ticked_tick Script.backend (unreported n)
  rwa [hrules.1, hrules.2] at hticked

/-- The track is given up at the second successful poll, with the failed one not counted. -/
theorem confirmation_bounded_unreported : (0 : UInt32) < 2 ∧
    Started ⟨2000, 2, 1000⟩ none openingTrack (unreported 1).memory ∧
    Awaiting openingTrack 1 (unreported 3).memory ∧
    (unreported 4).memory.state = .idle ∧ (unreported 4).memory.requested = none := by
  have hstarts : acts (Deed.tick.exchanges Script.backend (unreported 0)) = [.pop, .play, .start] := by cbv
  have hrequested : (unreported 1).memory.requested = some openingTrack := by cbv
  have hmemory₃ : (unreported 3).memory =
      ⟨.checkPlaying, some openingTrack, 1, 0, none, none, some default⟩ := by cbv
  have hmemory₄ : (unreported 4).memory =
      ⟨.idle, none, 0, 0, some ⟨openingTrack, false, 0⟩, none, some default⟩ := by cbv
  have hfails : ((unreported 1).runTick Script.backend).1 = .error ⟨.gatewayUnavailable, "offline"⟩ := by cbv
  have hstarted : Started ⟨2000, 2, 1000⟩ none openingTrack (unreported 1).memory :=
    .ticked (ticked_unreported 0) (by rw [hstarts]; decide) hrequested
  obtain ⟨hbounded, -⟩ := @confirmation_bounded ⟨2000, 2, 1000⟩ none (by decide)
  obtain ⟨hawaiting₁, hfirst⟩ := hbounded _ _ hstarted [] [] _ .nil .nil (by simp) (by decide)
  obtain ⟨result, hpolls₁, hdecided₁⟩ := hfirst _ _ _ (ticked_unreported 1)
  rw [hfails] at hdecided₁
  obtain ⟨hawaiting₂⟩ := hdecided₁
  have hpolls₂ := (ticked_unreported 2).ticking.polls (by rw [hawaiting₂.state]; decide) (by rw [hmemory₃])
  have hpolls₃ := (ticked_unreported 3).ticking.polls (by rw [hmemory₃]; decide) (by rw [hmemory₄])
  rw [hmemory₃] at hpolls₂
  rw [hmemory₄] at hpolls₃
  have hpolls := List.Forall₂.cons hpolls₁ (.cons hpolls₂ .nil)
  have hrun : Run ⟨2000, 2, 1000⟩ none (unreported 1).memory _ (unreported 3).memory :=
    .snoc (.snoc .nil (ticked_unreported 1)) (ticked_unreported 2)
  obtain ⟨hawaiting₃, hlast⟩ := hbounded _ _ hstarted _ _ _ hrun hpolls (by simp [Confirms]) (by decide)
  obtain ⟨result, hresult, hdecided⟩ := hlast _ _ _ (ticked_unreported 3)
  cases hpolls₃.unique hresult
  refine ⟨by decide, hstarted, hawaiting₃, ?_⟩
  generalize ((unreported 3).runTick Script.backend).1 = r at hdecided
  cases hdecided with
  | confirmed hconfirms => simp [Confirms] at hconfirms
  | missing _ hleft => cases Nat.lt_irrefl _ hleft
  | lost _ _ hstate hrequested => exact ⟨hstate, hrequested⟩

end Jukebox.Party
