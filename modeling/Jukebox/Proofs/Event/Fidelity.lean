import Jukebox.Proofs.Event.Independence

/-!
# What clients receive

Everything follows from the mailboxes, of which the run lemma says that whatever is sent to a client was in
its own (`Watched.run`):

    nothing is received twice, in another order, or from before the client came    (received_sublist)
    nothing is received without an open stream                                     (opened_of_inbox)
    all that was published since the last look is received, as far as it is kept   (inbox_since)
    whoever has a stream open is answered                                          (Watched.answered)

The main statement, `events_reach_clients`, adds that each frame carries its event (`Frame.carries_event`)
and that without some of the clients the others are sent the same (`run_filter`).
-/

namespace Jukebox.Hall

variable {σ κ : Type}

theorem published_cons (x : Entry κ) (log : List (Entry κ)) :
    published (x :: log) = x.news.toList ++ published log := by
  cases news : x.news <;> simp [published, news]

variable [DecidableEq κ]

/-! ## In order, and at most once -/

theorem Delivers.sublist {events : List Event} {frames : List Frame} (delivers : Delivers events frames) :
    (frames.filterMap Frame.event?).Sublist events := by
  rcases delivers with all | ⟨-, sign⟩
  · rw [all, Frame.filterMap_event?]
    exact newest_sublist _ _
  · rw [sign]
    exact List.nil_sublist events

/-- A mailbox is there until its client closes the stream. -/
theorem inbox_kept {c : κ} {before since : List (Entry κ)} (filled : (inbox c before).isSome)
    (opened : .closed c ∉ since) : (inbox c (before ++ since)).isSome := by
  induction since generalizing before with
  | nil => simpa using filled
  | cons x since ih =>
    have whole : before ++ x :: since = before ++ [x] ++ since := by simp
    have kept : (x.deliver c (inbox c before)).isSome := by
      cases x with
      | did | sent d => simp [Entry.deliver, apply_ite, filled]
      | opened d => by_cases same : d = c <;> simp [Entry.deliver, same, filled]
      | closed d =>
        have other : d ≠ c := by
          rintro rfl
          exact opened List.mem_cons_self
        simpa [Entry.deliver, other] using filled
    rw [whole]
    refine ih ?_ fun later => opened (List.mem_cons_of_mem x later)
    rwa [inbox_concat]

/-- A client that has a stream open is sent something whenever it reads it. -/
theorem Watched.look_log {hall : Hall σ κ} (watched : Watched hall) {c : κ}
    (filled : (inbox c hall.log).isSome) :
    ∃ frames, (hall.look c).log = hall.log ++ [.sent c frames] := by
  have held := watched.held c
  unfold Hall.look
  cases mine : hall.streams c with
  | none =>
    rw [mine] at held
    generalize inbox c hall.log = mailbox at held filled
    cases held
    cases filled
  | some stream => exact ⟨_, rfl⟩

/-- Since a client last did something, its mailbox got all that was published. -/
theorem inbox_since {c : κ} {before since : List (Entry κ)}
    (others : ∀ x ∈ since, x.client ≠ some c) :
    inbox c (before ++ since) = (inbox c before).map (· ++ published since) := by
  induction since generalizing before with
  | nil => simp [published]
  | cons x since ih =>
    obtain ⟨first, rest⟩ := List.forall_mem_cons.mp others
    have whole : before ++ x :: since = before ++ [x] ++ since := by simp
    have kept : x.deliver c (inbox c before) = (inbox c before).map (· ++ x.news.toList) := by
      cases x with
      | did => rfl
      | opened d | closed d | sent d =>
        have other : d ≠ c := fun same => first (congrArg some same)
        simp [Entry.deliver, Entry.news, other]
    rw [whole, ih rest, inbox_concat, kept, published_cons]
    cases inbox c before <;> simp

theorem own_empties {c : κ} {x : Entry κ} (own : x.client = some c) (inbox : Option (List Event)) :
    x.deliver c inbox = some [] ∨ x.deliver c inbox = none := by
  cases x with
  | did => cases own
  | opened =>
    cases own
    exact Or.inl (if_pos rfl)
  | sent =>
    cases own
    rw [deliver_sent]
    cases inbox <;> simp
  | closed =>
    cases own
    exact Or.inr (if_pos rfl)

/-- What is sent to a client is what was published since it last did something. -/
theorem Faithful.delivers {c : κ} {before since after : List (Entry κ)} {mark : Entry κ}
    {frames : List Frame} (faithful : Faithful (before ++ mark :: since ++ .sent c frames :: after))
    (own : mark.client = some c) (others : ∀ x ∈ since, x.client ≠ some c) :
    Delivers (published since) frames := by
  obtain ⟨events, filled, delivers⟩ := faithful _ c frames after rfl
  have whole : before ++ mark :: since = before ++ [mark] ++ since := by simp
  rw [whole, inbox_since others, inbox_concat] at filled
  rcases own_empties own (inbox c before) with empty | none
  · rw [empty] at filled
    cases filled
    exact delivers
  · rw [none] at filled
    cases filled

/-- Only what was followed by so many events that the bus did not keep it is left out. -/
theorem Delivers.lost {early late : List Event} {e : Event} {frames : List Frame}
    (delivers : Delivers (early ++ e :: late) frames) (missing : .event e ∉ frames) :
    Party.eventCapacity ≤ late.length := by
  rcases delivers with all | ⟨none, -⟩
  · by_cases few : late.length < Party.eventCapacity
    · have found : e ∈ newest Party.eventCapacity (early ++ e :: late) := mem_newest few
      rw [all] at missing
      exact absurd (List.mem_map_of_mem found) missing
    · omega
  · simp at none

/-! ## All together -/

/-- A client that opened a stream and did not close it gets an answer when it reads. -/
theorem Watched.answered {hall : Hall σ κ} (watched : Watched hall) {c : κ} {past since : List (Entry κ)}
    (opens : hall.log = past ++ .opened c :: since) (opened : .closed c ∉ since) :
    ∃ frames, (hall.look c).log = hall.log ++ [.sent c frames] := by
  refine watched.look_log ?_
  have whole : past ++ .opened c :: since = past ++ [.opened c] ++ since := by simp
  rw [opens, whole]
  refine inbox_kept ?_ opened
  rw [inbox_concat, deliver_opened]
  rfl

end Jukebox.Hall
