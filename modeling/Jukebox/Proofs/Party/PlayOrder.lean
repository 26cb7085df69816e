import Jukebox.Proofs.Gateway.Catalog
import Jukebox.Proofs.Party.Deeds
import Jukebox.Proofs.Party.Moves
import Jukebox.Proofs.Queue.Invariant

/-!
# The order of play

Over the simulated service, with every queued track in its catalog, the scheduler plays the queues in
order.  Whatever befalls the service, the tracks started so far followed by those that wait are what
waited in the beginning (`play_order`): no track is lost, none is started twice, none out of turn.

A move `Keeps` this count (`keeps_move`).  The popped entry is either started or regains its place, since
the service never refuses a track of the catalog for good.
-/

namespace Jukebox.Party

open Queue (Entry Ledger)

/-- The names of the tracks that wait, in the order of play. -/
def waiting (s : Queue.Store) : List TrackId :=
  s.entries.map Entry.id

/-- What holds between two deeds: the queues are in order, and their tracks are in the catalog. -/
structure Stocked (p : Party Player) : Prop where
  valid : p.store.Valid []
  offered : ∀ id ∈ waiting p.store, p.service.Offers id

/-- The queues stay in order, and what was started has gone off their front. -/
structure Keeps (p : Party Player) (t : List (Exchange interface)) (p' : Party Player) : Prop where
  valid : p'.store.Valid []
  count : started t ++ waiting p'.store = waiting p.store

variable {p p₁ p' : Party Player} {t t₁ t₂ : List (Exchange interface)}

theorem Keeps.trans (h : Keeps p t₁ p₁) (h' : Keeps p₁ t₂ p') : Keeps p (t₁ ++ t₂) p' where
  valid := h'.valid
  count := by rw [started_append, List.append_assoc, h'.count, h.count]

/-- Where nothing is started, the same tracks wait. -/
theorem keeps_of_store (hvalid : p.store.Valid []) (hstarted : started t = [])
    (hstore : ∃ playback, p'.store = { p.store with nowPlaying := playback }) : Keeps p t p' := by
  obtain ⟨playback, hstore⟩ := hstore
  constructor
  · rw [hstore]
    exact hvalid.setNowPlaying playback
  · rw [hstarted, hstore]
    rfl

theorem keeps_of_store_eq (hvalid : p.store.Valid []) (hstarted : started t = [])
    (hstore : p'.store = p.store) : Keeps p t p' :=
  keeps_of_store hvalid hstarted ⟨p.store.nowPlaying, hstore⟩

theorem Stocked.of_keeps (h : Stocked p) (hk : Keeps p t p')
    (hcatalog : p'.service.catalog = p.service.catalog) : Stocked p' where
  valid := hk.valid
  offered id hid := by
    have hwaits : id ∈ waiting p.store := by
      rw [← hk.count]
      exact List.mem_append_right _ hid
    obtain ⟨track, htrack, heq⟩ := h.offered id hwaits
    exact ⟨track, hcatalog ▸ htrack, heq⟩

/-! ## The catalog -/

/-- Nothing done at a party changes the catalog. -/
theorem served_catalog (h : Program.Served (serve Player.backend) p t p') :
    p'.service.catalog = p.service.catalog := by
  induction h with
  | nil p => rfl
  | @cons a p p' t _ ih =>
    rw [ih]
    cases a with
    | gateway a => exact Player.catalog_gateway a
    | _ => rfl

/-! ## Moves -/

theorem waiting_pop {s s' : Queue.Store} {popped : Queue.Popped} {change : Option Queue.Change}
    (h : s.pop = ⟨some popped, change, s'⟩) : waiting s = popped.entry.id :: waiting s' := by
  rcases s.pop_cases with ⟨-, ho⟩ | ⟨kind, e, rest, -, hentries, ho⟩
  · rw [ho] at h
    cases h
  · rw [ho] at h
    cases h
    exact congrArg (List.map Entry.id) hentries

theorem keeps_selected {preferred : Option String} {r : Except Error (Option Track)}
    (h : Stocked p) (hselected : Selected Player.backend preferred p t p' r) : Keeps p t p' := by
  cases hselected with
  | nothing _ _ hstarted hstore => exact keeps_of_store_eq h.valid hstarted hstore
  | handed hpop _ hstarted hstore =>
    have hvalid := h.valid.pop
    rw [hpop] at hvalid
    constructor
    · rw [hstore]
      exact hvalid.tail
    · rw [hstarted, hstore, waiting_pop hpop]
      rfl
  | putBack hpop _ hstarted hstore =>
    -- Nothing happened to the queues since the entry was popped, so it regains its place.
    rw [h.valid.restore_pop hpop] at hstore
    exact keeps_of_store_eq h.valid hstarted hstore
  | @givenUp popped _ _ _ _ hpop hplay he =>
    -- The service would have to refuse a track of its catalog for good.
    have hwaits : popped.entry.id ∈ waiting p.store := by
      rw [waiting_pop hpop]
      exact List.mem_cons_self
    have htransient := Player.isTransient_of_play (h.offered _ hwaits) hplay
    rw [he] at htransient
    cases htransient

theorem keeps_entered {next : Scheduler.State} (hvalid : p.store.Valid [])
    (hentered : Entered p next t p') : Keeps p t p' :=
  keeps_of_store_eq hvalid hentered.started hentered.store

theorem keeps_move {preferred : Option String} (h : Stocked p)
    (hmove : Move Player.backend preferred p t p') : Keeps p t p' := by
  cases hmove with
  | failed ha _ => exact keeps_of_store h.valid ha.started ha.store
  | looked ha _ hentered =>
    have hlook := keeps_of_store h.valid ha.started ha.store
    exact hlook.trans (keeps_entered hlook.valid hentered)
  | chosen _ hselected hentered =>
    have hchoice := keeps_selected h hselected
    exact hchoice.trans (keeps_entered hchoice.valid hentered)

theorem keeps_moves {preferred : Option String} (h : Stocked p)
    (hmoves : Moves Player.backend preferred p t p') : Keeps p t p' := by
  rcases hmoves with hmove | ⟨t₁, t₂, p₁, rfl, hserved, hfirst, hsecond⟩
  · exact keeps_move h hmove
  · have hk := keeps_move h hfirst
    exact hk.trans (keeps_move (h.of_keeps hk (served_catalog hserved)) hsecond)

/-! ## Deeds -/

/-- What may befall the service without any request. -/
inductive Hook where
  | expireCredentials
  | ineffectiveRefresh (on : Bool)
  | offline (on : Bool)
  | devices (devices : List Device)
  | finishCurrent
  | playExternally (track : Track)

/-- The service after it was befallen. -/
def Hook.apply : Hook → Instant → Player → Player
  | .expireCredentials, _, player => player.expireCredentials
  | .ineffectiveRefresh on, _, player => { player with refreshIneffective := on }
  | .offline on, _, player => { player with offline := on }
  | .devices ds, _, player => { player with devices := ds }
  | .finishCurrent, _, player => player.finishCurrent
  | .playExternally track, now, player => player.playExternally now track

/-- Deeds that leave the queues to the scheduler and the catalog as it is. -/
def Deed.Calm : Deed Player → Prop
  | .tick | .join .. | .wait _ => True
  | .operate op => ∀ track, op ≠ .play track
  | .intervene change => ∀ now player, (change now player).catalog = player.catalog
  | .request _ | .queue _ => False

theorem Hook.calm (hook : Hook) : (Deed.intervene hook.apply).Calm := by
  intro now player
  cases hook <;> rfl

theorem keeps_operate {op : Gateway.Operation} (h : Stocked p) (hop : ∀ track, op ≠ .play track) :
    Keeps p ((Deed.operate op).exchanges Player.backend p) ((Deed.operate op).after Player.backend p) ∧
      ((Deed.operate op).after Player.backend p).service.catalog = p.service.catalog := by
  have hends := Program.ends_run (gateway (op.task p.rules.preferredDevice)).run
    (serve Player.backend) p
  refine ⟨?_, served_catalog hends.served⟩
  obtain ⟨u, hu, ht⟩ := yields_gateway hends.yields
  have hserved := hends.served
  rw [ht] at hserved
  obtain ⟨player, -, hp⟩ := served_atGateway hserved
  refine keeps_of_store_eq h.valid ?_ (congrArg (·.store) hp)
  show started ((gateway (op.task p.rules.preferredDevice)).run.trace (serve Player.backend) p) = []
  rw [ht, started_atGateway]
  exact Gateway.startedIn_task hop hu

theorem keeps_deed {d : Deed Player} (h : Stocked p) (hd : d.Calm) :
    Keeps p (d.exchanges Player.backend p) (d.after Player.backend p) ∧
      (d.after Player.backend p).service.catalog = p.service.catalog := by
  cases d with
  | tick =>
    obtain ⟨r, htick⟩ := ends_deed_tick Player.backend p
    obtain ⟨u, hu, hmoves⟩ := ends_tick htick
    refine ⟨?_, served_catalog htick.served⟩
    have hk := keeps_moves h hmoves
    rw [hu]
    exact ⟨hk.valid, hk.count⟩
  | operate op => exact keeps_operate h hd
  | join nickname isAdmin => exact ⟨keeps_of_store_eq h.valid rfl rfl, rfl⟩
  | wait millis => exact ⟨keeps_of_store_eq h.valid rfl rfl, rfl⟩
  | intervene change => exact ⟨keeps_of_store_eq h.valid rfl rfl, hd p.clock p.service⟩
  | request | queue => exact hd.elim

theorem keeps_deeds {ds : List (Deed Player)} (h : Stocked p) (hds : ∀ d ∈ ds, d.Calm) :
    Keeps p (exchangesAll Player.backend p ds) (afterAll Player.backend p ds) := by
  induction ds generalizing p with
  | nil => exact keeps_of_store_eq h.valid rfl rfl
  | cons d ds ih =>
    obtain ⟨hd, hds⟩ := List.forall_mem_cons.1 hds
    obtain ⟨hk, hcatalog⟩ := keeps_deed h hd
    exact hk.trans (ih (h.of_keeps hk hcatalog) hds)

/-- **The order of play.**  From queues in use, all of whose tracks are in the catalog, before the
sequence numbers run out, whatever the scheduler remembers and whatever befalls the service: the tracks
started, in order, and the tracks that wait, in the order of play, are the tracks that waited in the
beginning. -/
theorem play_order {p : Party Player} {l : Ledger} {ds : List (Deed Player)} (hl : l.Reachable)
    (hg : l.given < UInt64.size) (hstore : p.store = l.store)
    (hoffered : ∀ e ∈ p.store.admin ++ p.store.normal, ∃ track ∈ p.service.catalog, track.id = e.id)
    (hds : ∀ d ∈ ds, d.Calm) :
    started (exchangesAll Player.backend p ds) ++
        ((afterAll Player.backend p ds).store.admin.map Entry.id ++
          (afterAll Player.backend p ds).store.normal.map Entry.id) =
      p.store.admin.map Entry.id ++ p.store.normal.map Entry.id := by
  have hvalid : p.store.Valid [] := by
    rw [hstore]
    exact (hl.valid hg).1.forget
  have hstocked : Stocked p := by
    refine ⟨hvalid, fun id hid => ?_⟩
    obtain ⟨e, he, rfl⟩ := List.mem_map.1 hid
    exact hoffered e he
  rw [← List.map_append, ← List.map_append]
  exact (keeps_deeds hstocked hds).count

/-- Two tracks wait; one is started, and the other one finds no device to be played on. -/
theorem play_order_disturbed :
    let a : Track := ⟨⟨"a"⟩, "A", "", "", 180000, ""⟩
    let b : Track := ⟨⟨"b"⟩, "B", "", "", 180000, ""⟩
    let l := (Ledger.start.perform (.enqueue a .normal)).perform (.enqueue b .admin)
    let p : Party Player := { Party.new ⟨none, none, 10⟩ ⟨2000, 5, 10000⟩ (fun _ => ⟨"s"⟩)
      (Player.new [a, b]) default with store := l.store }
    let ds : List (Deed Player) := [.intervene (Hook.offline true).apply, .tick,
      .intervene (Hook.offline false).apply, .intervene Hook.expireCredentials.apply, .tick,
      .wait 2000, .tick, .intervene Hook.finishCurrent.apply,
      .intervene (Hook.devices []).apply, .tick]
    l.Reachable ∧ l.given < UInt64.size ∧
      (∀ e ∈ p.store.admin ++ p.store.normal, ∃ track ∈ p.service.catalog, track.id = e.id) ∧
      (∀ d ∈ ds, d.Calm) ∧
      started (exchangesAll Player.backend p ds) = [⟨"b"⟩] ∧
      started (exchangesAll Player.backend p ds) ++
        ((afterAll Player.backend p ds).store.admin.map Entry.id ++
          (afterAll Player.backend p ds).store.normal.map Entry.id) = [⟨"b"⟩, ⟨"a"⟩] := by
  intro a b l p ds
  have hl : l.Reachable := .perform _ (.perform _ .start trivial) trivial
  have hg : l.given < UInt64.size := by cbv
  have hoffered : ∀ e ∈ p.store.admin ++ p.store.normal,
      ∃ track ∈ p.service.catalog, track.id = e.id := by
    have hs : p.store.admin ++ p.store.normal = [.new b 1, .new a 0] := by cbv
    rw [hs, List.forall_mem_cons, List.forall_mem_singleton]
    exact ⟨⟨b, by simp [p, Player.new, Party.new], rfl⟩, ⟨a, by simp [p, Player.new, Party.new], rfl⟩⟩
  have hds : ∀ d ∈ ds, d.Calm := by
    simp only [ds, List.forall_mem_cons]
    exact ⟨Hook.calm _, trivial, Hook.calm _, Hook.calm _, trivial, trivial, trivial, Hook.calm _,
      Hook.calm _, trivial, List.forall_mem_nil _⟩
  have hids : p.store.admin.map Entry.id ++ p.store.normal.map Entry.id = [⟨"b"⟩, ⟨"a"⟩] := by cbv
  have h := play_order hl hg rfl hoffered hds
  have hstarted : started (exchangesAll Player.backend p ds) = [⟨"b"⟩] := by decide +kernel
  refine ⟨hl, hg, hoffered, hds, hstarted, ?_⟩
  rw [← hids]
  exact h

end Jukebox.Party
