import Jukebox.Api
import Jukebox.Player
import Jukebox.Proofs.Party.Failures

/-!
# Answers that report a failure

An HTTP request comes to at most one request to the party (`asked?`).  If it comes to none, the party stays
as it is, and if it comes to one, the answer reports what became of that one (`handle_asked`).  So an answer
whose status is not 200 means that nothing was applied (`failures_unapplied`).
-/

namespace Jukebox.Api

open Party (Unapplied Deed)

variable {σ : Type} {backend : Backend σ} {p : Party σ} {r : Http.Request} {q : Party.Request}

/-- What an HTTP request is for, if it is for anything. -/
def endpoint? (r : Http.Request) : Option Endpoint :=
  if r.method = "OPTIONS" then none
  else (Route.ofPath? r.path).bind fun route => route.endpoint? r.method

/-- What an HTTP request asks of the party, if it gets that far. -/
def asked? (r : Http.Request) : Option Party.Request :=
  match (endpoint? r).bind fun endpoint => request? endpoint r with
  | some (.ok q) => some q
  | _ => none

/-- The exchanges of an HTTP request. -/
def exchanges (backend : Backend σ) (r : Http.Request) (p : Party σ) :
    List (Exchange Party.interface) :=
  match asked? r with
  | some q => (Deed.request q).exchanges backend p
  | none => []

/-- What is answered about a request to the party. -/
def report (q : Party.Request) : Except Error q.Result → Http.Response
  | .ok result => .json 200 (resultJson q result)
  | .error e => failure e

/-- The answer as it is sent. -/
def sent (r : Http.Request) (response : Http.Response) : Http.Response :=
  if r.method = "HEAD" then response.withoutBody else response

@[simp]
theorem status_sent (r : Http.Request) (response : Http.Response) :
    (sent r response).status = response.status := by
  unfold sent
  split <;> rfl

/-- The statuses of failures are not the one of success. -/
theorem status_ne (kind : Error.Kind) : kind.status ≠ 200 := by
  cases kind <;> decide

theorem status_report (q : Party.Request) (x : Except Error q.Result) :
    (report q x).status ≠ 200 ↔ ∃ e, x = .error e := by
  cases x with
  | ok result => exact ⟨fun h => absurd rfl h, nofun⟩
  | error e => exact ⟨fun _ => ⟨e, rfl⟩, fun _ => status_ne e.kind⟩

/-- A request that is for something is answered there, and without the body if only the head was asked for. -/
theorem handle_endpoint {endpoint : Endpoint} (h : endpoint? r = some endpoint) :
    handle backend r p = (sent r (respond backend endpoint r p).1, (respond backend endpoint r p).2) := by
  unfold endpoint? at h
  split at h
  · cases h
  · next hmethod =>
    obtain ⟨route, hroute, hendpoint⟩ := Option.bind_eq_some_iff.1 h
    unfold handle
    rw [if_neg hmethod, hroute]
    dsimp only
    rw [hendpoint]
    rfl

/-- A request that is for nothing leaves the party alone. -/
theorem handle_no_endpoint (h : endpoint? r = none) : (handle backend r p).2 = p := by
  unfold endpoint? at h
  unfold handle
  split at h
  · next hmethod => rw [if_pos hmethod]
  · next hmethod =>
    rw [if_neg hmethod]
    cases hroute : Route.ofPath? r.path with
    | none => rfl
    | some route =>
      rw [hroute, Option.bind_some] at h
      dsimp only
      rw [h]

/-- The answer reports what became of the request to the party. -/
theorem handle_asked (h : asked? r = some q) :
    handle backend r p = (sent r (report q (p.request backend q).1), (p.request backend q).2) := by
  unfold asked? at h
  split at h
  · next q' hq =>
    cases h
    obtain ⟨endpoint, hendpoint, hrequest⟩ := Option.bind_eq_some_iff.1 hq
    rw [handle_endpoint hendpoint]
    unfold respond
    rw [hrequest]
    dsimp only
    obtain ⟨x, p'⟩ := p.request backend q
    cases x with
    | ok result => rfl
    | error e => rfl
  · cases h

/-- Without a request to the party nothing happens at it. -/
theorem handle_unasked (h : asked? r = none) : (handle backend r p).2 = p := by
  cases hendpoint : endpoint? r with
  | none => exact handle_no_endpoint hendpoint
  | some endpoint =>
    rw [handle_endpoint hendpoint]
    unfold asked? at h
    rw [hendpoint, Option.bind_some] at h
    unfold respond
    cases hrequest : request? endpoint r with
    | none => cases endpoint <;> rfl
    | some x =>
      cases x with
      | ok q => rw [hrequest] at h; cases h
      | error e => rfl

/-- **No failure in part.**  A request that fails, or an HTTP request of any form whose answer has another
status than 200, tells observers nothing and leaves queues, sessions and scheduler as they are; at most a
track that was looked up is remembered.  If an HTTP request gets as far as asking something of the party, its
answer has another status than 200 exactly if that fails; the status is then the one for that failure, and
the body repeats it and gives the failure's text, unless the request was for the head only. -/
theorem failures_unapplied (backend : Backend σ) (p : Party σ) :
    (∀ (q : Party.Request) (e : Error), (p.request backend q).1 = .error e →
      Unapplied p ((Deed.request q).exchanges backend p) (p.request backend q).2) ∧
    ∀ r : Http.Request,
      ((handle backend r p).1.status ≠ 200 →
        Unapplied p (exchanges backend r p) (handle backend r p).2) ∧
      ∀ q, asked? r = some q →
        ((handle backend r p).1.status ≠ 200 ↔ ∃ e, (p.request backend q).1 = .error e) ∧
        ∀ e, (p.request backend q).1 = .error e → (handle backend r p).1 =
          ⟨e.kind.status, some "application/json", if r.method = "HEAD" then "" else
            (Json.ofMembers [("error", .ofText e.message), ("status", .ofNat e.kind.status)]).print⟩ := by
  have hfailed := fun q e => Party.unapplied_request (e := e) backend p q
  refine ⟨hfailed, fun r => ⟨fun hstatus => ?_, fun q hq => ⟨?_, fun e he => ?_⟩⟩⟩
  · unfold exchanges
    cases hq : asked? r with
    | none =>
      rw [handle_unasked hq]
      exact ⟨rfl, rfl, Or.inl rfl⟩
    | some q =>
      rw [handle_asked hq, status_sent, status_report] at hstatus
      obtain ⟨e, he⟩ := hstatus
      rw [handle_asked hq]
      exact hfailed q e he
  · rw [handle_asked hq, status_sent, status_report]
  · rw [handle_asked hq, he]
    unfold sent
    split <;> rfl

/-- A track is looked up and then refused, since it is queued already; and nobody has asked for the queues. -/
theorem failures_unapplied_refused :
    let a : Track := ⟨⟨"a"⟩, "A", "", "", 1000, ""⟩
    let guest : SessionId := ⟨"s"⟩
    let p : Party Player := { Party.new ⟨none, none, 10⟩ ⟨2000, 5, 10000⟩ (fun _ => guest)
      (Player.new [a]) default with
      store := ⟨[.new a 0], [], 1, none⟩
      sessions := Sessions.empty.insert ⟨guest, none, false, default⟩ }
    let add : Party.Request := .add guest ⟨"a"⟩ .normal
    let r : Http.Request := ⟨"GET", "/api/v1/queue?session_id=nobody", none, ""⟩
    (p.request Player.backend add).1 = .error (.alreadyQueued ⟨"a"⟩ .normal) ∧
      Unapplied p ((Deed.request add).exchanges Player.backend p) (p.request Player.backend add).2 ∧
      (p.request Player.backend add).2.cache.tracks = [a] ∧
      asked? r = some (.queues ⟨"nobody"⟩) ∧
      Unapplied p (exchanges Player.backend r p) (handle Player.backend r p).2 ∧
      (handle Player.backend r p).1 = ⟨404, some "application/json",
        "\x7b\"error\":\"Not found: session 'nobody'\",\"status\":404\x7d"⟩ := by
  intro a guest p add r
  have hrefused : (p.request Player.backend add).1 = .error (.alreadyQueued ⟨"a"⟩ .normal) := rfl
  have hasked : asked? r = some (.queues ⟨"nobody"⟩) := by decide +kernel
  have hunknown : (p.request Player.backend (.queues ⟨"nobody"⟩)).1 = .error (.unknownSession ⟨"nobody"⟩) := rfl
  obtain ⟨hfailed, hanswers⟩ := failures_unapplied Player.backend p
  obtain ⟨hunapplied, hanswer⟩ := hanswers r
  obtain ⟨hstatus, hbody⟩ := hanswer _ hasked
  refine ⟨hrefused, hfailed _ _ hrefused, by decide +kernel, hasked, hunapplied (hstatus.2 ⟨_, hunknown⟩), ?_⟩
  rw [hbody _ hunknown]
  decide +kernel

/-- The answer to a request for the head has no text, also if it reports a failure. -/
theorem head_without_text :
    let p : Party Player := Party.new ⟨none, none, 10⟩ ⟨2000, 5, 10000⟩ (fun _ => ⟨"s"⟩) (Player.new []) default
    let r : Http.Request := ⟨"HEAD", "/api/v1/queue?session_id=nobody", none, ""⟩
    asked? r = some (.queues ⟨"nobody"⟩) ∧
      (p.request Player.backend (.queues ⟨"nobody"⟩)).1 = .error (.unknownSession ⟨"nobody"⟩) ∧
      (handle Player.backend r p).1 = ⟨404, some "application/json", ""⟩ := by
  intro p r
  have hasked : asked? r = some (.queues ⟨"nobody"⟩) := by decide +kernel
  refine ⟨hasked, rfl, ?_⟩
  rw [handle_asked hasked]
  rfl

end Jukebox.Api
