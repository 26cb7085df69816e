import Jukebox.Proofs.Party.Selection
import Jukebox.Script

/-!
# Tracks that are dropped

A track whose start failed is dropped if the error is not of a kind that may pass, whoever answered it.
So a track is dropped only because the service refused it exactly in those failures that are transient
or were answered to the very request to start the track (`failed_nextTrack_iff`); if the list of devices
is denied, the track is lost although nobody refused it (`nextTrack_drops_unrefused`).

The steps of other requests may come between those of `nextTrack`.  It is therefore looked at through
the moments at which it found the party, in states that need not have to do with each other.
-/

namespace Jukebox.Party

open Queue (Popped Change)

variable {σ : Type}

/-- At one of the moments, `popped` was taken off its queue. -/
def Taken (popped : Popped) (t : List (Moment interface (Party σ))) : Prop :=
  ∃ p : Party σ, ⟨.store .pop, p⟩ ∈ t ∧ p.store.pop.reply = some popped

/-- At one of the moments, `popped` came back into its queue, with its votes and its number, unless its
track was queued again meanwhile. -/
def PutBack (popped : Popped) (t : List (Moment interface (Party σ))) : Prop :=
  ∃ p : Party σ, ⟨.store (.restore popped), p⟩ ∈ t ∧
    (p.store.contains popped.entry.id = true ∨
      popped.entry ∈ (p.store.restore popped).store.queue popped.queue)

/-- At one of the moments, the service answered the error to the request to start the track. -/
def RefusedWith (backend : Backend σ) (id : TrackId) (e : Error)
    (t : List (Moment interface (Party σ))) : Prop :=
  ∃ m ∈ t, ∃ device, m.exchange (serve backend) =
    ⟨.gateway (.call (.start id device)), (.error e : Except Error Unit)⟩

/-- At one of the moments, the service answered the error to a call before the track was started. -/
def PreparationFailedWith (backend : Backend σ) (e : Error)
    (t : List (Moment interface (Party σ))) : Prop :=
  ∃ m ∈ t, ∃ c, Gateway.Prepares c ∧ m.exchange (serve backend) =
    ⟨.gateway (.call c), (.error e : Except Error c.Result)⟩

section
variable (backend : Backend σ) {popped : Popped} {t : List (Moment interface (Party σ))}

theorem taken_iff : Taken popped t ↔ ∃ change : Option Change,
    ⟨.store .pop, ((some popped : Option Popped), change)⟩ ∈ t.map (Moment.exchange (serve backend)) := by
  constructor
  · rintro ⟨p, hm, hr⟩
    refine ⟨p.store.pop.change, List.mem_map.2 ⟨_, hm, ?_⟩⟩
    rw [← hr]
    rfl
  · rintro ⟨change, hx⟩
    obtain ⟨⟨a, p⟩, hm, hx⟩ := List.mem_map.1 hx
    obtain ⟨rfl, hx⟩ := Exchange.mk.inj hx
    exact ⟨p, hm, (Prod.mk.inj (eq_of_heq hx)).1⟩

/-- An entry that is to be put back is in its queue afterwards, unless its track was queued again. -/
theorem putBack_iff : PutBack popped t ↔
    ∃ x ∈ t.map (Moment.exchange (serve backend)), x.request = .store (.restore popped) := by
  constructor
  · rintro ⟨p, hm, -⟩
    exact ⟨_, List.mem_map_of_mem hm, rfl⟩
  · rintro ⟨x, hx, hr⟩
    obtain ⟨⟨a, p⟩, hm, rfl⟩ := List.mem_map.1 hx
    obtain rfl : a = .store (.restore popped) := hr
    refine ⟨p, hm, ?_⟩
    cases hc : p.store.contains popped.entry.id with
    | true => exact Or.inl rfl
    | false =>
      right
      unfold Queue.Store.restore Queue.Store.insert
      rw [hc, if_neg Bool.false_ne_true, Queue.Store.queue_setQueue, Queue.Entry.mem_rank]
      exact List.mem_append_right _ List.mem_cons_self

theorem refusedWith_iff {id : TrackId} {e : Error} : RefusedWith backend id e t ↔
    ∃ device, ⟨.gateway (.call (.start id device)), (.error e : Except Error Unit)⟩ ∈
      t.map (Moment.exchange (serve backend)) := by
  constructor
  · rintro ⟨m, hm, device, hx⟩
    exact ⟨device, List.mem_map.2 ⟨m, hm, hx⟩⟩
  · rintro ⟨device, hx⟩
    obtain ⟨m, hm, hx⟩ := List.mem_map.1 hx
    exact ⟨m, hm, device, hx⟩

end

/-! ## A failed start -/

/-- What follows if a track was not started: its entry goes back if the error may pass. -/
def Aftermath (popped : Popped) (e : Error) (rest : List (Exchange interface)) : Prop :=
  e.isTransient = true ∧ (∃ back change, rest = committed (.restore popped) back change) ∨
    e.isTransient = false ∧ rest = []

theorem yields_nextTrack_error {preferred : Option String} {t : List (Exchange interface)} {e : Error}
    (h : (nextTrack preferred).run.Yields t (.error e)) :
    ∃ popped change u rest, t = popping (some popped) change ++ (u.map atGateway ++ rest) ∧
      (Gateway.play preferred popped.entry.track).run.Yields u (.error e) ∧
      Aftermath popped e rest := by
  cases yields_nextTrack h with
  | @putBack popped change u _ back change' hplay he =>
    exact ⟨popped, change, u, _, rfl, hplay, Or.inl ⟨he, back, change', rfl⟩⟩
  | @givenUp popped change u _ hplay he =>
    refine ⟨popped, change, u, [], ?_, hplay, Or.inr ⟨he, rfl⟩⟩
    rw [List.append_nil]

section
variable {popped popped' : Popped} {change : Option Change} {e : Error}
  {u : List (Exchange Gateway.interface)} {rest : List (Exchange interface)}

theorem Aftermath.request_ne_pop (h : Aftermath popped e rest) :
    ∀ x ∈ rest, x.request ≠ .store .pop := by
  intro x hx
  rcases h with ⟨-, back, change, rfl⟩ | ⟨-, rfl⟩
  · rcases request_committed hx with hr | ⟨o, hr⟩ <;> rw [hr] <;> exact nofun
  · exact absurd hx List.not_mem_nil

/-- The first exchange is the only one in which something is popped. -/
theorem pop_mem_iff (hrest : Aftermath popped e rest) :
    (∃ change' : Option Change, ⟨.store .pop, ((some popped' : Option Popped), change')⟩ ∈
      popping (some popped) change ++ (u.map atGateway ++ rest)) ↔ popped' = popped := by
  constructor
  · rintro ⟨change', hx⟩
    rcases List.mem_append.1 hx with hx | hx
    · rcases List.mem_cons.1 hx with hx | hx
      · have ha := eq_of_heq (Exchange.mk.inj hx).2
        exact Option.some.inj (Prod.mk.inj ha).1
      · cases change with
        | none => exact absurd hx List.not_mem_nil
        | some change => exact nomatch List.mem_singleton.1 hx
    · rcases List.mem_append.1 hx with hx | hx
      · obtain ⟨a, ha⟩ := request_atGateway hx
        exact nomatch ha
      · exact absurd rfl (hrest.request_ne_pop _ hx)
  · rintro rfl
    exact ⟨change, List.mem_append_left _ List.mem_cons_self⟩

/-- Before the aftermath nothing is put back. -/
theorem request_ne_restore {x : Exchange interface}
    (hx : x ∈ popping (some popped) change ++ u.map atGateway) :
    x.request ≠ .store (.restore popped') := by
  rcases List.mem_append.1 hx with hx | hx
  · rcases request_committed hx with hr | ⟨o, hr⟩ <;> rw [hr] <;> exact nofun
  · obtain ⟨a, hr⟩ := request_atGateway hx
    rw [hr]
    exact nofun

theorem restore_mem_iff (hrest : Aftermath popped e rest) :
    (∃ x ∈ popping (some popped) change ++ (u.map atGateway ++ rest),
      x.request = .store (.restore popped)) ↔ e.isTransient = true := by
  constructor
  · rintro ⟨x, hx, hr⟩
    rcases hrest with ⟨he, -⟩ | ⟨-, rfl⟩
    · exact he
    · rw [List.append_nil] at hx
      exact absurd hr (request_ne_restore hx)
  · intro he
    rcases hrest with ⟨-, back, change', rfl⟩ | ⟨he', -⟩
    · exact ⟨_, List.mem_append_right _ (List.mem_append_right _ List.mem_cons_self), rfl⟩
    · rw [he] at he'
      cases he'

end

/-- **When a track is dropped only because it was refused.**  A failed `nextTrack` has taken one entry
off.  If the service refused to start its track or the error may pass, the entry is put back unless it
was refused; in all other failures it is lost without having been refused. -/
theorem failed_nextTrack_iff {backend : Backend σ} {preferred : Option String}
    {t : List (Moment interface (Party σ))} {e : Error}
    (h : (nextTrack preferred).run.Yields (t.map (Moment.exchange (serve backend))) (.error e)) :
    ∃ popped : Popped, (∀ popped', Taken popped' t ↔ popped' = popped) ∧
      (RefusedWith backend popped.entry.id e t ∨ PreparationFailedWith backend e t ∨
        e = .noDevices) ∧
      (PutBack popped t ↔ e.isTransient = true) ∧
      ((¬ RefusedWith backend popped.entry.id e t → PutBack popped t) ↔
        RefusedWith backend popped.entry.id e t ∨ e.isTransient = true) := by
  obtain ⟨popped, change, u, rest, ht, hplay, hrest⟩ := yields_nextTrack_error h
  have hback : PutBack popped t ↔ e.isTransient = true := by
    rw [putBack_iff backend, ht]
    exact restore_mem_iff hrest
  refine ⟨popped, fun popped' => ?_, ?_, hback, ?_⟩
  · rw [taken_iff backend, ht]
    exact pop_mem_iff hrest
  · have hmem : ∀ x ∈ u, atGateway x ∈ t.map (Moment.exchange (serve backend)) := by
      intro x hx
      rw [ht]
      exact List.mem_append_right _ (List.mem_append_left _ (List.mem_map_of_mem hx))
    rcases Gateway.answered_play hplay with ⟨x, hx, ⟨device, rfl⟩ | ⟨c, hc, rfl⟩⟩ | he
    · exact Or.inl ((refusedWith_iff backend).2 ⟨device, hmem _ hx⟩)
    · obtain ⟨m, hm, hx⟩ := List.mem_map.1 (hmem _ hx)
      exact Or.inr (Or.inl ⟨m, hm, c, hc, hx⟩)
    · exact Or.inr (Or.inr he)
  · rw [hback]
    exact Classical.or_iff_not_imp_left.symm

/-! ### A list of devices that fails -/

/-- A track. -/
def someTrack : Track :=
  ⟨⟨"a"⟩, "A", "", "", 1000, ""⟩

/-- A party where one track waits and the next list of devices is answered with an error. -/
def failingDevices (e : Error) : Party Script :=
  { Party.new ⟨none, none, 10⟩ ⟨2000, 5, 10000⟩ (fun _ => ⟨"s"⟩)
      (Script.empty.expect .devices (.error e)) default with
    store := (Queue.Store.empty.enqueue someTrack .normal).store }

/-- If the service cannot be reached, the track is put back. -/
theorem failed_nextTrack_unavailable :
    let e : Error := ⟨.gatewayUnavailable, "devices"⟩
    let t := (nextTrack none).run.moments (serve Script.backend) (failingDevices e)
    (nextTrack none).run.Yields (t.map (Moment.exchange (serve Script.backend))) (.error e) ∧
      ∃ popped, Taken popped t ∧ PutBack popped t := by
  intro e t
  have hr : ((nextTrack none).run.run (serve Script.backend) (failingDevices e)).1 = .error e := by
    cbv
  have hy : (nextTrack none).run.Yields (t.map (Moment.exchange (serve Script.backend)))
      (.error e) := by
    rw [← hr]
    exact (Program.ends_run _ _ _).yields
  obtain ⟨popped, htaken, -, hback, -⟩ := failed_nextTrack_iff hy
  exact ⟨hy, popped, (htaken popped).2 rfl, hback.2 rfl⟩

/-- If the list of devices is denied, the track is gone, although the service was never asked to start
it. -/
theorem nextTrack_drops_unrefused :
    let e : Error := ⟨.accessDenied, "devices"⟩
    let popped : Popped := ⟨.new someTrack 0, .normal⟩
    let t := (nextTrack none).run.moments (serve Script.backend) (failingDevices e)
    (nextTrack none).run.Yields (t.map (Moment.exchange (serve Script.backend))) (.error e) ∧
      Taken popped t ∧ ¬ RefusedWith Script.backend popped.entry.id e t ∧ ¬ PutBack popped t := by
  intro e popped t
  have hr : ((nextTrack none).run.run (serve Script.backend) (failingDevices e)).1 = .error e := by
    cbv
  have ht : t.map (Moment.exchange (serve Script.backend)) =
      [⟨.store .pop, ((some popped, some ⟨.popped, ⟨"a"⟩, .normal⟩) : Option Popped × Option Change)⟩,
        ⟨.publish (.queueChanged ⟨.popped, ⟨"a"⟩, .normal⟩), ()⟩,
        ⟨.gateway (.acquire .transport), ()⟩,
        ⟨.gateway (.call .devices), (.error e : Except Error (List Device))⟩,
        ⟨.gateway (.release .transport), ()⟩] := by
    show (nextTrack none).run.trace (serve Script.backend) (failingDevices e) = _
    cbv
  refine ⟨?_, ?_, ?_, ?_⟩
  · rw [← hr]
    exact (Program.ends_run _ _ _).yields
  · rw [taken_iff Script.backend, ht]
    exact ⟨_, List.mem_cons_self⟩
  · rw [refusedWith_iff, ht]
    rintro ⟨device, hx⟩
    have ha := List.mem_map_of_mem (f := Exchange.request) hx
    simp at ha
  · rw [putBack_iff Script.backend, ht]
    simp

end Jukebox.Party
