import Jukebox.Proofs.Gateway.Operations

/-!
# Credentials are renewed once, and a call is repeated once

What an operation exchanges with the playback service falls into uses of single capabilities, one stage
for each (`Use`).  A careful task goes on after a use only if that succeeded; so a use that failed is the
last one, and the task fails with its error (`Careful.chain`).  Nothing else than a use ever says that
credentials expired, and after a successful renewal only its second call can
(`Use.expired_twice`).

The main statement has this for every operation, and for all that the service may answer
(`renewed_at_most_once`).
-/

namespace Jukebox.Gateway

/-- One use of a capability: its call, all that was exchanged for it, and what came of it. -/
structure Use where
  call : Call
  log : List (Exchange interface)
  result : Except Error call.Result
  stage : Stage call log result
  /-- Renewals are made for other calls only. -/
  own : call ≠ .refresh

/-- The exchange is a call to the service. -/
def isCall : Exchange interface → Bool
  | ⟨.call _, _⟩ => true
  | ⟨.acquire _, _⟩ | ⟨.release _, _⟩ => false

/-- The exchange is a renewal of the credentials. -/
def isRenewal : Exchange interface → Bool
  | ⟨.call .refresh, _⟩ => true
  | _ => false

/-! ## One use -/

theorem isRenewal_made {c : Call} (own : c ≠ .refresh) (r : Except Error c.Result) :
    isRenewal (made c r) = false := by
  cases c with
  | refresh => exact absurd rfl own
  | _ => rfl

theorem isRenewal_refresh (r : Except Error Call.refresh.Result) : isRenewal (made .refresh r) = true :=
  rfl

/-- A renewal is found behind a call of another kind only. -/
theorem made_cons_eq_append {c : Call} (own : c ≠ .refresh) {r : Except Error c.Result}
    {x : Except Error Unit} {before rest after : List (Exchange interface)}
    (split : made c r :: rest = before ++ made .refresh x :: after) :
    ∃ front, before = made c r :: front ∧ rest = front ++ made .refresh x :: after := by
  cases before with
  | nil =>
    have same : made c r = made .refresh x := (List.cons.inj split).1
    exact absurd (Action.call.inj (congrArg Exchange.request same)) own
  | cons b front =>
    obtain ⟨rfl, found⟩ := List.cons.inj split
    exact ⟨front, rfl, found⟩

namespace Use

variable (u : Use)

theorem isCall_log : ∀ x ∈ u.log, isCall x = true := by
  intro x member
  obtain ⟨request, answer⟩ := x
  rcases u.stage.request_eq _ member with rfl | rfl <;> rfl

theorem renewals_le_one : u.log.countP isRenewal ≤ 1 := by
  obtain ⟨c, log, result, stage, own⟩ := u
  cases stage <;> simp [isRenewal_made own, isRenewal_refresh, List.countP_cons]

theorem calls_le_two : u.log.countP (!isRenewal ·) ≤ 2 := by
  obtain ⟨c, log, result, stage, own⟩ := u
  cases stage <;> simp [isRenewal_made own, isRenewal_refresh]

/-- Credentials are renewed right after a call that said that they had expired. -/
theorem renewed_after {before after : List (Exchange interface)} {x : Except Error Unit}
    (split : u.log = before ++ made .refresh x :: after) :
    ∃ e, before = [made u.call (.error e)] ∧ e.isCredentialExpired = true := by
  obtain ⟨c, log, result, stage, own⟩ := u
  cases stage with
  | settled =>
    obtain ⟨front, rfl, found⟩ := made_cons_eq_append own split
    simp at found
  | @notRenewed e _ h =>
    obtain ⟨front, rfl, found⟩ := made_cons_eq_append own split
    cases front with
    | nil => exact ⟨e, rfl, h⟩
    | cons => simp at found
  | @repeated e _ h =>
    obtain ⟨front, rfl, found⟩ := made_cons_eq_append own split
    cases front with
    | nil => exact ⟨e, rfl, h⟩
    | cons b front =>
      obtain ⟨-, found⟩ := List.cons.inj found
      obtain ⟨_, rfl, found⟩ := made_cons_eq_append own found
      simp at found

/-- Where renewals never fail for expired credentials, a use does so only in its second call. -/
theorem expired_twice {e : Error} (failed : u.result = .error e) (h : e.isCredentialExpired = true)
    (sound : ∀ e', made .refresh (.error e') ∈ u.log → e'.isCredentialExpired = false) :
    ∃ first, u.log = [made u.call (.error first), made .refresh (.ok ()), made u.call (.error e)] := by
  obtain ⟨c, log, result, stage, own⟩ := u
  dsimp only at failed
  subst failed
  cases stage with
  | settled fresh => simp [fresh e rfl] at h
  | notRenewed => simp [sound e (by simp)] at h
  | repeated => exact ⟨_, rfl⟩

end Use

/-- Whatever is used one after the other, renewals come right after expired credentials. -/
theorem renewed_after {uses : List Use} {before after : List (Exchange interface)}
    {x : Except Error Unit} (split : uses.flatMap (·.log) = before ++ made .refresh x :: after) :
    ∃ front c e, before = front ++ [made c (.error e)] ∧ e.isCredentialExpired = true := by
  induction uses generalizing before with
  | nil => simp at split
  | cons u uses ih =>
    rw [List.flatMap_cons, List.append_eq_append_iff] at split
    rcases split with ⟨behind, rfl, found⟩ | ⟨rest, log, found⟩
    · obtain ⟨front, c, e, rfl, h⟩ := ih found
      exact ⟨u.log ++ front, c, e, by simp, h⟩
    · cases rest with
      | nil =>
        have later : uses.flatMap (·.log) = [] ++ made .refresh x :: after := found.symm
        obtain ⟨front, c, e, empty, -⟩ := ih later
        simp at empty
      | cons y rest =>
        obtain ⟨rfl, -⟩ := List.cons.inj found
        obtain ⟨e, rfl, h⟩ := u.renewed_after log
        exact ⟨[], u.call, e, rfl, h⟩

/-! ## The uses of a task -/

/-- The uses of a task that exchanged `t` and ended with `r`. -/
structure Chain (calls : Call → Prop) {α : Type} (t : List (Exchange interface)) (r : Except Error α)
    (uses : List Use) : Prop where
  log : t = uses.flatMap (·.log)
  asked : ∀ u ∈ uses, calls u.call
  /-- What is followed by another use succeeded. -/
  passed : uses.Pairwise fun earlier _ => ∃ a, earlier.result = .ok a
  /-- The task fails with the error of a use. -/
  failed : ∀ u ∈ uses, ∀ e, u.result = .error e → r = .error e
  /-- Only a use can say that credentials expired. -/
  expired : ∀ e, r = .error e → e.isCredentialExpired = true → ∃ u ∈ uses, u.result = .error e

theorem Careful.chain {calls : Call → Prop} {α : Type} {x : Task α} (careful : Careful calls x)
    {t : List (Exchange interface)} {r : Except Error α} (yields : x.run.Yields t r) :
    ∃ uses, Chain calls t r uses := by
  induction careful generalizing t with
  | pure a =>
    obtain ⟨rfl, rfl⟩ := Program.yields_pure.1 yields
    exact ⟨[], rfl, by simp, .nil, by simp, nofun⟩
  | refuse fresh =>
    obtain ⟨rfl, rfl⟩ := Program.yields_pure.1 yields
    refine ⟨[], rfl, by simp, .nil, by simp, ?_⟩
    intro e same expired
    cases same
    simp [fresh] at expired
  | @stage c own asked =>
    refine ⟨[⟨c, t, r, yields_stage yields, own⟩], by simp, by simpa using asked, by simp, by simp, ?_⟩
    intro e same _
    exact ⟨_, List.mem_singleton_self _, same⟩
  | @bind α β x f _ _ first next =>
    rcases Program.yields_bind_run.1 yields with ⟨t₁, t₂, a, rfl, h₁, h₂⟩ | ⟨e, h, rfl⟩
    · obtain ⟨uses₁, chain₁⟩ := first h₁
      obtain ⟨uses₂, chain₂⟩ := next a h₂
      -- the first part ended with success, so none of its uses failed
      have fine : ∀ u ∈ uses₁, ∃ a, u.result = .ok a := by
        intro u member
        cases result : u.result with
        | ok a => exact ⟨a, rfl⟩
        | error e => cases chain₁.failed u member e result
      refine ⟨uses₁ ++ uses₂, ?_, ?_, ?_, ?_, ?_⟩
      · rw [chain₁.log, chain₂.log, List.flatMap_append]
      · exact List.forall_mem_append.mpr ⟨chain₁.asked, chain₂.asked⟩
      · exact List.pairwise_append.mpr ⟨chain₁.passed, chain₂.passed, fun u member _ _ => fine u member⟩
      · intro u member e failed
        rcases List.mem_append.mp member with member | member
        · obtain ⟨a, passed⟩ := fine u member
          rw [passed] at failed
          cases failed
        · exact chain₂.failed u member e failed
      · intro e same expired
        obtain ⟨u, member, failed⟩ := chain₂.expired e same expired
        exact ⟨u, List.mem_append_right _ member, failed⟩
    · obtain ⟨uses, chain⟩ := first h
      refine ⟨uses, chain.log, chain.asked, chain.passed, ?_, ?_⟩
      · intro u member e' failed
        cases chain.failed u member e' failed
        rfl
      · intro e' same expired
        cases same
        exact chain.expired e rfl expired

namespace Chain

variable {calls : Call → Prop} {α : Type} {t : List (Exchange interface)} {r : Except Error α}
  {uses : List Use}

theorem isCall_of_mem (chain : Chain calls t r uses) : ∀ x ∈ t, isCall x = true := by
  intro x member
  rw [chain.log] at member
  obtain ⟨u, -, found⟩ := List.mem_flatMap.mp member
  exact u.isCall_log x found

/-- A use that failed is the last one. -/
theorem eq_append_of_failed (chain : Chain calls t r uses) {u : Use} {e : Error} (member : u ∈ uses)
    (failed : u.result = .error e) : ∃ earlier, uses = earlier ++ [u] := by
  obtain ⟨earlier, later, rfl⟩ := List.append_of_mem member
  cases later with
  | nil => exact ⟨earlier, rfl⟩
  | cons v later =>
    have passed := (List.pairwise_cons.mp (List.pairwise_append.mp chain.passed).2.1).1 v (by simp)
    obtain ⟨a, passed⟩ := passed
    rw [passed] at failed
    cases failed

end Chain

/-! ## Operations -/

/-- The uses of an operation that exchanged `t` and ended with `r`. -/
structure Operation.Renews (op : Operation) (t : List (Exchange interface)) (r : Except Error op.Result)
    (uses : List Use) : Prop where
  /-- All calls of the operation belong to its uses, which follow each other. -/
  log : t.filter isCall = uses.flatMap (·.log)
  asked : ∀ u ∈ uses, op.Calls u.call
  bounded : ∀ u ∈ uses, u.log.countP (!isRenewal ·) ≤ 2 ∧ u.log.countP isRenewal ≤ 1
  /-- What is followed by another use succeeded, so a use that failed is the last one. -/
  passed : uses.Pairwise fun earlier _ => ∃ a, earlier.result = .ok a
  failed : ∀ u ∈ uses, ∀ e, u.result = .error e → r = .error e
  /-- Credentials are renewed only right after a call that said that they had expired. -/
  renewed : ∀ before x after, t.filter isCall = before ++ made .refresh x :: after →
    ∃ front c e, before = front ++ [made c (.error e)] ∧ e.isCredentialExpired = true
  /-- Where no renewal fails for expired credentials, the operation does so only if the second call of its
  last use did. -/
  expired : (∀ e, made .refresh (.error e) ∈ t → e.isCredentialExpired = false) →
    ∀ e, r = .error e → e.isCredentialExpired = true →
      ∃ earlier last first, uses = earlier ++ [last] ∧
        last.log = [made last.call (.error first), made .refresh (.ok ()), made last.call (.error e)]

theorem Chain.renews {op : Operation} {t u : List (Exchange interface)} {r : Except Error op.Result}
    {uses : List Use} (chain : Chain op.Calls t r uses) (calls : u.filter isCall = t) :
    op.Renews u r uses where
  log := calls.trans chain.log
  asked := chain.asked
  bounded u _ := ⟨u.calls_le_two, u.renewals_le_one⟩
  passed := chain.passed
  failed := chain.failed
  renewed before x after split := renewed_after (chain.log ▸ calls ▸ split)
  expired := by
    intro sound e failed h
    obtain ⟨last, member, result⟩ := chain.expired e failed h
    obtain ⟨earlier, rfl⟩ := chain.eq_append_of_failed member result
    have sound' : ∀ e', made .refresh (.error e') ∈ last.log → e'.isCredentialExpired = false := by
      intro e' found
      have used : made .refresh (.error e') ∈ u.filter isCall := by
        rw [calls, chain.log]
        exact List.mem_flatMap.mpr ⟨last, member, found⟩
      exact sound e' (List.mem_filter.mp used).1
    obtain ⟨first, log⟩ := last.expired_twice result h sound'
    exact ⟨earlier, last, first, rfl, log⟩

/-- Whatever the service answers, the calls of an operation are uses of single capabilities: in each one
the credentials are renewed at most once and the call is repeated at most once. -/
theorem renewed_at_most_once {op : Operation} {preferred : Option String}
    {t : List (Exchange interface)} {r : Except Error op.Result}
    (h : (op.task preferred).run.Yields t r) : ∃ uses, op.Renews t r uses := by
  cases op.works preferred with
  | held _ htask hbody =>
    rw [htask] at h
    obtain ⟨inner, hinner, rfl⟩ := yields_holding h
    obtain ⟨uses, chain⟩ := hbody.chain hinner
    refine ⟨uses, chain.renews ?_⟩
    have kept : inner.filter isCall = inner := List.filter_eq_self.mpr chain.isCall_of_mem
    simp [isCall, List.filter_append, kept]
  | free _ htask =>
    obtain ⟨uses, chain⟩ := htask.chain h
    exact ⟨uses, chain.renews (List.filter_eq_self.mpr chain.isCall_of_mem)⟩
  | refused htask fresh =>
    rw [htask] at h
    have careful : Careful op.Calls (throw _ : Task op.Result) := .refuse fresh
    obtain ⟨uses, chain⟩ := careful.chain h
    exact ⟨uses, chain.renews (List.filter_eq_self.mpr chain.isCall_of_mem)⟩

/-- The credentials expire while playback is resumed, and the renewed ones are refused as well. -/
theorem renewed_at_most_once_refused_again :
    let expired : Error := ⟨.credentialExpired, "token"⟩
    let t : List (Exchange interface) := [⟨.acquire .transport, ()⟩,
      made .current (.ok (some ⟨default, false, 0⟩)), made .resume (.error expired),
      made .refresh (.ok ()), made .resume (.error expired), ⟨.release .transport, ()⟩]
    (Operation.resume.task none).run.Yields t (.error expired) ∧
      ∃ earlier last first, Operation.resume.Renews t (.error expired) (earlier ++ [last]) ∧
        last.log =
          [made last.call (.error first), made .refresh (.ok ()), made last.call (.error expired)] := by
  intro expired t
  have yields : (Operation.resume.task none).run.Yields t (.error expired) :=
    .ask (.ask (.ask (.ask (.ask (.ask (.done _))))))
  obtain ⟨uses, renews⟩ := renewed_at_most_once yields
  have sound : ∀ e, made .refresh (.error e) ∈ t → e.isCredentialExpired = false := by
    intro e member
    simp only [t, List.mem_cons, List.not_mem_nil, or_false] at member
    rcases member with same | same | same | same | same | same <;> cases same
  obtain ⟨earlier, last, first, rfl, log⟩ := renews.expired sound expired rfl rfl
  exact ⟨yields, earlier, last, first, renews, log⟩

end Jukebox.Gateway
