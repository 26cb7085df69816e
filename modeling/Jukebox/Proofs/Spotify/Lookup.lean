import Jukebox.Proofs.Http.Target
import Jukebox.Proofs.Spotify.Calls

/-!
# Where a lookup leads

To look a track up, its bare name is put behind the path for tracks as it is.  So it is the name of one segment there
exactly if it is plain; then different names make different requests (`lookup_leads_iff`).  Any other name leads
elsewhere: with dots and slashes, to another endpoint of the API, and behind a number sign, nowhere
(`lookup_strays`).
-/

namespace Jukebox.Spotify

open Http.Target

/-- The segment of the path under which the API has its tracks. -/
def tracksSegment : List Char :=
  "tracks".toList

/-- The step makes no other request than this one, with some token. -/
def Requests (client : Client) (r : ApiRequest) : Action → Prop
  | .exchange c => ∃ token, c = r.withToken client.apiBase token
  | _ => True

theorem only_step {allowed : Action → Prop} {a : Action} (h : allowed a) : (step a).run.Only allowed := by
  show (Except.ok <$> Program.request (I := interface) a).Only allowed
  rw [map_eq_pure_bind]
  exact (Program.only_request h).bind fun _ => Program.only_pure _

theorem only_conclude {client : Client} {r : ApiRequest} (token : String) (reply : Http.Reply) :
    (conclude token reply).run.Only (Requests client r) := by
  rcases conclude_cases token reply with ⟨-, heq⟩ | ⟨-, result, heq⟩
  · rw [heq]
    exact Program.Only.bind_run (only_step trivial) fun _ => Program.only_pure _
  · rw [heq]
    exact Program.only_pure _

theorem only_send (client : Client) (r : ApiRequest) : (send client r).run.Only (Requests client r) := by
  have htoken : accessToken.run.Only (Requests client r) := by
    refine (only_step trivial).bind_run fun token => ?_
    cases token <;> exact Program.only_pure _
  have hexchange : ∀ token, (exchange (r.withToken client.apiBase token)).run.Only (Requests client r) := by
    intro token
    refine (only_step ⟨token, rfl⟩).bind_run fun reply => ?_
    cases reply <;> exact Program.only_pure _
  rw [send_eq]
  refine htoken.bind_run fun token => ?_
  have hsent := (hexchange token).bind_run fun reply => only_conclude token reply
  dsimp only
  split
  · exact Program.Only.bind_run (x := throw _) (Program.only_pure _) fun _ => hsent
  · exact hsent

/-- A call makes the request that it is made of, and no other one. -/
theorem only_steps {c : Call} {r : ApiRequest} (h : request? c = some r) (client : Client) :
    (steps client c).Only (Requests client r) := by
  obtain ⟨answer, hsteps, -⟩ := steps_eq_map h client
  rw [hsteps, map_eq_pure_bind]
  exact (only_send client r).bind fun _ => Program.only_pure _

/-! ## The path of a lookup -/

theorem url_lookup (base : String) (id : TrackId) :
    (lookupRequest id).url base =
      String.ofList (base.toList ++ '/' :: tracksSegment ++ '/' :: (bareName id).toList) := by
  have hurl : (lookupRequest id).url base = base ++ ("/tracks/" ++ bareName id) := rfl
  have hlead : "/tracks/".toList = '/' :: tracksSegment ++ ['/'] := rfl
  apply String.toList_injective
  rw [hurl, String.toList_append, String.toList_append, hlead, String.toList_ofList]
  simp

/-- Another segment behind the path. -/
theorem hasPath_concat {base segment : List Char} {path : List (List Char)} (h : HasPath base path)
    (hsegment : IsNormal segment) : HasPath (base ++ '/' :: segment) (path ++ [segment]) := by
  cases h with
  | @mk scheme host _ hscheme hne hhost hpath =>
    have hjoined : scheme ++ "://".toList ++ host ++ joined path ++ '/' :: segment =
        scheme ++ "://".toList ++ host ++ joined (path ++ [segment]) := by
      rw [joined_concat, List.append_assoc _ (joined path)]
    rw [hjoined]
    exact .mk hscheme hne hhost (List.forall_mem_append.2 ⟨hpath, List.forall_mem_singleton.2 hsegment⟩)

/-- That a text stands for itself in a path can be computed. -/
theorem isNormal_of_marks {segment : List Char}
    (h : segment.all fun c => (0x20 < c.toNat ∧ c.toNat < 0x7f ∧ c ∉ unsafeMarks) ∧ c ≠ '/' ∧ c ≠ '\\')
    (hdot : isDot segment = false) (htwo : isTwoDots segment = false) : IsNormal segment :=
  ⟨fun c hc => (List.all_iff_forall_prop.1 h c hc).imp isPathSafe_iff.2 id, hdot, htwo⟩

theorem isNormal_tracksSegment : IsNormal tracksSegment :=
  isNormal_of_marks (by decide) (by decide) (by decide)

theorem hasPath_apiBase : HasPath Session.apiBase.toList ["v1".toList] := by
  have hbase : Session.apiBase.toList =
      "https".toList ++ "://".toList ++ "api.spotify.com".toList ++ joined ["v1".toList] := by rfl
  rw [hbase]
  exact .mk (List.all_iff_forall_prop.1 (by decide)) (by decide) (List.all_iff_forall_prop.1 (by decide))
    (List.forall_mem_singleton.2 (isNormal_of_marks (by decide) (by decide) (by decide)))

theorem bareName_of_not_isPrefixOf {name : String} (h : uriLead.isPrefixOf name.toList = false) :
    bareName ⟨name⟩ = name :=
  if_neg (Bool.eq_false_iff.1 h)

theorem target_lookup (base : String) (id : TrackId) (token : String) :
    ((lookupRequest id).withToken base token).target =
      ofUrl (String.ofList (base.toList ++ '/' :: tracksSegment ++ '/' :: (bareName id).toList)) := by
  unfold ApiRequest.withToken
  dsimp only
  rw [url_lookup]

/-- **A lookup stays on the path for tracks exactly if the name is plain.**  Whatever it is answered, a lookup makes no
request but one with the method `GET` and a token, whose target ends in the bare name.  If this is plain, it is decoded
from one segment behind the path for tracks, and there is no query; otherwise the target is none of this.  Plain names
that are different lead to different targets. -/
theorem lookup_leads_iff {client : Client} {path : List (List Char)} (hbase : HasPath client.apiBase.toList path) :
    (∀ id, (steps client (.lookup id)).Only (Requests client (lookupRequest id))) ∧
    (∀ id token, let c := (lookupRequest id).withToken client.apiBase token
      c.method = "GET" ∧ c.authorization = s!"Bearer {token}" ∧
        (Leads (path ++ [tracksSegment]) (bareName id).toList c.target ↔ IsPlain (bareName id).toList)) ∧
    ∀ id id' token token', IsPlain (bareName id).toList → IsPlain (bareName id').toList →
      ((lookupRequest id).withToken client.apiBase token).target =
        ((lookupRequest id').withToken client.apiBase token').target → bareName id = bareName id' := by
  have htracks := hasPath_concat hbase isNormal_tracksSegment
  have hleads : ∀ id token, Leads (path ++ [tracksSegment]) (bareName id).toList
      ((lookupRequest id).withToken client.apiBase token).target ↔ IsPlain (bareName id).toList := by
    intro id token
    rw [target_lookup]
    exact leads_iff htracks _
  refine ⟨fun id => only_steps rfl client, fun id token => ⟨rfl, rfl, hleads id token⟩, ?_⟩
  intro id id' token token' hid hid' htarget
  have hsame := (hleads id token).2 hid
  rw [htarget] at hsame
  exact String.toList_injective (hsame.name_eq ((hleads id' token').2 hid'))

/-- A track is looked up by its URI at Spotify. -/
theorem lookup_leads_uri :
    let client : Client := ⟨Session.apiBase, Session.tokenUrl, ⟨"id", "secret", "r1"⟩⟩
    let id : TrackId := ⟨"spotify:track:4uLU6hMCjMI75M1A2tKUQC"⟩
    let name := "4uLU6hMCjMI75M1A2tKUQC".toList
    HasPath client.apiBase.toList ["v1".toList] ∧ (bareName id).toList = name ∧ IsPlain name ∧
      Leads ["v1".toList, tracksSegment] name ((lookupRequest id).withToken client.apiBase "t1").target := by
  intro client id name
  have hbase : HasPath client.apiBase.toList ["v1".toList] := hasPath_apiBase
  have hname : (bareName id).toList = name := by cbv
  have hlast : "4uLU6hMCjMI75M1A2tKUQC".toList.getLast? = some 'C' := by decide
  have hsent : IsSent "4uLU6hMCjMI75M1A2tKUQC".toList := by
    refine ⟨List.all_iff_forall_prop.1 (by decide), fun c hc => ?_⟩
    rw [hlast] at hc
    cases hc
    decide
  have hplain : IsPlain "4uLU6hMCjMI75M1A2tKUQC".toList :=
    ⟨hsent, by decide, by decide, by decide, by decide, by cbv⟩
  have hleads := ((lookup_leads_iff hbase).2.1 id "t1").2.2
  rw [hname] at hleads
  exact ⟨hbase, hname, hplain, hleads.2 hplain⟩

/-- A name with dots and slashes reaches the state of the player, and what follows a number sign is not sent. -/
theorem lookup_strays :
    let target (name : String) : String := ((lookupRequest ⟨name⟩).withToken Session.apiBase "t1").target
    target "../me/player" = "/v1/me/player" ∧
      ¬ Leads ["v1".toList, tracksSegment] (bareName ⟨"../me/player"⟩).toList (target "../me/player") ∧
      target "a#b" = target "a" ∧ bareName ⟨"a#b"⟩ ≠ bareName ⟨"a"⟩ := by
  intro target
  have htracks := hasPath_concat hasPath_apiBase isNormal_tracksSegment
  have hdots : "../me/player".toList = "..".toList ++ joined (["me".toList] ++ ["player".toList]) := by rfl
  have hname : bareName ⟨"../me/player"⟩ = "../me/player" := bareName_of_not_isPrefixOf (by decide)
  have ha : bareName ⟨"a"⟩ = "a" := bareName_of_not_isPrefixOf (by decide)
  have hab : bareName ⟨"a#b"⟩ = "a#b" := bareName_of_not_isPrefixOf (by decide)
  simp only [target, target_lookup, hname, ha, hab]
  refine ⟨?_, fun hleads => ?_, ?_, by decide⟩
  · have hothers : ∀ s ∈ ["me".toList] ++ ["player".toList], IsNormal s :=
      List.forall_mem_cons.2 ⟨isNormal_of_marks (by decide) (by decide) (by decide),
        List.forall_mem_singleton.2 (isNormal_of_marks (by decide) (by decide) (by decide))⟩
    rw [hdots, ofUrl_twoDots htracks hothers]
    rfl
  · exact (isPlain_of_leads htracks hleads).slash (by decide)
  · exact ofUrl_congr htracks (by decide)

end Jukebox.Spotify
