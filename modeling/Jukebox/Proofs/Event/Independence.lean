import Jukebox.Proofs.Event.Audience

/-!
# Clients do not notice each other

Take a run and leave out all that some of the clients did.  Then the others are sent the same as before, and
all steps of requests and ticks are answered as before (`run_filter`).

Both runs are followed side by side (`Alike`): the parties differ in nothing but the bus, and the mailboxes
of the clients that stay are the same, since they hang on the log of what these clients did and of the steps
that were taken.
-/

namespace Jukebox.Hall

variable {σ κ : Type}

/-- One hall is like another in which only some of the clients ever did anything. -/
structure Alike (stays : κ → Bool) (full less : Hall σ κ) : Prop where
  /-- The parties differ in the bus only. -/
  party : less.party = { full.party with bus := less.party.bus }
  silent : ∀ c, stays c = true →
    (less.streams c).map Stream.silentSince = (full.streams c).map Stream.silentSince
  log : less.log = full.log.filter (·.client.all stays)

variable {stays : κ → Bool} {full less : Hall σ κ}

theorem Alike.clock_eq (alike : Alike stays full less) : less.party.clock = full.party.clock := by
  rw [alike.party]

theorem Alike.both_none (alike : Alike stays full less) {c : κ} (stay : stays c = true) :
    full.streams c = none ↔ less.streams c = none := by
  have silent := alike.silent c stay
  cases hs : full.streams c <;> cases ht : less.streams c <;> simp [hs, ht] at silent ⊢

/-- No step of a request or a tick looks at the bus. -/
theorem serve_withBus (backend : Backend σ) (a : Party.Action) (p : Party σ) (bus : Bus) :
    ∃ bus', Party.serve backend a { p with bus := bus } =
      ((Party.serve backend a p).1, { (Party.serve backend a p).2 with bus := bus' }) := by
  cases a <;> exact ⟨_, rfl⟩

theorem Alike.act (alike : Alike stays full less) (backend : Backend σ) (a : Party.Action) :
    Alike stays (full.act backend a) (less.act backend a) := by
  obtain ⟨bus', served⟩ := serve_withBus backend a full.party less.party.bus
  rw [← alike.party] at served
  have time : less.party.time = full.party.time := by rw [alike.party]
  refine ⟨?_, alike.silent, ?_⟩
  · simp only [Hall.act, served]
  · simp [Hall.act, served, time, alike.log, List.filter_append, Entry.client]

variable [DecidableEq κ]

theorem inbox_filter {c : κ} (stay : stays c = true) (log : List (Entry κ)) :
    inbox c (log.filter (·.client.all stays)) = inbox c log := by
  unfold inbox
  generalize (none : Option (List Event)) = start
  induction log generalizing start with
  | nil => rfl
  | cons x log ih =>
    by_cases kept : x.client.all stays = true
    · simp only [List.filter_cons, kept, if_true, List.foldl_cons, ih]
    · obtain ⟨d, own, gone⟩ : ∃ d, x.client = some d ∧ stays d = false := by
        cases own : x.client with
        | none => simp [own] at kept
        | some d => exact ⟨d, rfl, by simpa [own] using kept⟩
      have other : d ≠ c := by
        rintro rfl
        simp [gone] at stay
      simpa [List.filter_cons, kept, deliver_of_ne own other] using ih start

namespace Alike

theorem inbox_eq (alike : Alike stays full less) {c : κ} (stay : stays c = true) :
    inbox c less.log = inbox c full.log := by
  rw [alike.log, inbox_filter stay]

/-- A client that stays does the same in both halls. -/
theorem turn (alike : Alike stays full less) {c : κ} {bus bus' : Bus} {s s' : Option Stream} {x : Entry κ}
    (own : x.client = some c) (stay : stays c = true)
    (silent : s'.map Stream.silentSince = s.map Stream.silentSince) :
    Alike stays (full.turn c { full.party with bus := bus } s x)
      (less.turn c { less.party with bus := bus' } s' x) where
  party := by
    simp only [Hall.turn]
    rw [alike.party]
  silent d stay' := by
    by_cases same : d = c
    · simpa [Hall.turn, same] using silent
    · simpa [Hall.turn, same] using alike.silent d stay'
  log := by
    simp [Hall.turn, alike.log, List.filter_append, own, stay]

/-- A client that is left out does something. -/
theorem aside (alike : Alike stays full less) {c : κ} {bus : Bus} {s : Option Stream} {x : Entry κ}
    (own : x.client = some c) (gone : stays c = false) :
    Alike stays (full.turn c { full.party with bus := bus } s x) less where
  party := alike.party
  silent d stay := by
    have other : d ≠ c := by
      rintro rfl
      simp [gone] at stay
    simpa [Hall.turn, other] using alike.silent d stay
  log := by
    simp [Hall.turn, alike.log, List.filter_append, own, gone]

theorem leave (alike : Alike stays full less) {c : κ} (stay : stays c = true) :
    Alike stays (full.leave c) (less.leave c) := by
  unfold Hall.leave
  have none := alike.both_none stay
  cases hs : full.streams c <;> cases ht : less.streams c
  · exact alike
  · simp [hs, ht] at none
  · simp [hs, ht] at none
  · exact alike.turn rfl stay rfl

theorem leave_aside (alike : Alike stays full less) {c : κ} (gone : stays c = false) :
    Alike stays (full.leave c) less := by
  unfold Hall.leave
  split
  · exact alike
  · exact alike.aside rfl gone

theorem enter (alike : Alike stays full less) {c : κ} (stay : stays c = true) :
    Alike stays (full.enter c) (less.enter c) := by
  refine alike.turn rfl stay ?_
  show some less.party.clock = some full.party.clock
  rw [alike.clock_eq]

theorem enter_aside (alike : Alike stays full less) {c : κ} (gone : stays c = false) :
    Alike stays (full.enter c) less :=
  alike.aside rfl gone

/-- What is sent to a client hangs on its mailbox and on how long it has been silent. -/
theorem look (alike : Alike stays full less) (watched : Watched full) (watched' : Watched less) {c : κ}
    (stay : stays c = true) : Alike stays (full.look c) (less.look c) := by
  unfold Hall.look
  have none := alike.both_none stay
  have silent := alike.silent c stay
  cases hs : full.streams c with
  | none =>
    cases ht : less.streams c with
    | none => exact alike
    | some t => simp [hs, ht] at none
  | some s =>
    cases ht : less.streams c with
    | none => simp [hs, ht] at none
    | some t =>
      obtain ⟨events, filled, waiting⟩ := (hs ▸ watched.held c).waiting
      obtain ⟨events', filled', waiting'⟩ := (ht ▸ watched'.held c).waiting
      have same : events' = events := by
        rw [alike.inbox_eq stay, filled] at filled'
        exact (Option.some.inj filled').symm
      have since : t.silentSince = s.silentSince := by simpa [hs, ht] using silent
      subst same
      have sent : Api.frames t less.party =
          ((Api.frames s full.party).1, ⟨t.slot, (Api.frames s full.party).2.1.silentSince⟩,
            { less.party with bus := (less.party.bus.drain t.slot).2 }) := by
        simp only [frames_eq watched.capacity waiting, frames_eq watched'.capacity waiting', since,
          alike.clock_eq]
      simp only [sent, frames_eq watched.capacity waiting]
      exact alike.turn rfl stay rfl

theorem look_aside (alike : Alike stays full less) {c : κ} (gone : stays c = false) :
    Alike stays (full.look c) less := by
  unfold Hall.look
  split
  · exact alike
  · exact alike.aside rfl gone

theorem step (alike : Alike stays full less) (watched : Watched full) (watched' : Watched less)
    (backend : Backend σ) (h : Happening κ) (kept : h.client.all stays = true) :
    Alike stays (full.step backend h) (less.step backend h) := by
  cases h with
  | act a => exact alike.act backend a
  | pass clock time =>
    refine ⟨?_, alike.silent, alike.log⟩
    simp only [Hall.step]
    rw [alike.party]
  | opens c => exact (alike.leave kept).enter kept
  | reads c => exact alike.look watched watched' kept
  | closes c => exact alike.leave kept

theorem step_aside (alike : Alike stays full less) (backend : Backend σ) (h : Happening κ)
    (dropped : h.client.all stays = false) : Alike stays (full.step backend h) less := by
  cases h with
  | act | pass => cases dropped
  | opens c => exact (alike.leave_aside dropped).enter_aside dropped
  | reads c => exact alike.look_aside dropped
  | closes c => exact alike.leave_aside dropped

theorem run (alike : Alike stays full less) (watched : Watched full) (watched' : Watched less)
    (backend : Backend σ) (happenings : List (Happening κ)) :
    Alike stays (full.run backend happenings)
      (less.run backend (happenings.filter (·.client.all stays))) := by
  induction happenings generalizing full less with
  | nil => exact alike
  | cons h rest ih =>
    cases kept : h.client.all stays with
    | true =>
      simp only [List.filter_cons, kept, if_true]
      exact ih (alike.step watched watched' backend h kept) (watched.step backend h)
        (watched'.step backend h)
    | false =>
      simp only [List.filter_cons, kept, Bool.false_eq_true, if_false]
      exact ih (alike.step_aside backend h kept) (watched.step backend h) watched'

end Alike

end Jukebox.Hall
