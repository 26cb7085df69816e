import Jukebox.Proofs.Gateway.Expiry
import Jukebox.Proofs.Party.PlayOrder

/-!
# Credentials that expire between deeds

Over the simulated service, as long as renewing the credentials helps, it makes no difference whether they
expire in the meantime: every deed is answered in the same way, tells observers the same, and leaves the
same queues and the same memory of the scheduler (`expiry_unnoticed`).  In the end the parties are the same
up to the credentials and the number of their renewals.
-/

namespace Jukebox.Party

/-- The exchange is not one with the playback service. -/
def isOwn (x : Exchange interface) : Bool :=
  match x.request with
  | .gateway _ => false
  | _ => true

/-- Parties whose services are alike and that are the same otherwise. -/
def Alike (p p' : Party Player) : Prop :=
  ∃ player, p.service.Alike player ∧ p' = { p with service := player }

variable {p p' : Party Player}

/-! ## What deeds are made of -/

theorem indifferent_step {a : Action} (ha : Own a) :
    (step a).Indifferent (serve Player.backend) Alike isOwn := by
  refine Program.indifferent_request ?_
  rintro p _ ⟨player, hplayer, rfl⟩
  cases a with
  | gateway a => exact ha.elim
  | _ => exact ⟨rfl, player, hplayer, rfl⟩

theorem isOwn_gateway {α : Type} (task : Gateway.Task α) (p : Party Player) :
    ((gateway task).run.trace (serve Player.backend) p).filter isOwn = [] := by
  have honly : (gateway task).run.Only fun a : Action => ∃ b, a = .gateway b :=
    only_gateway fun b => ⟨b, rfl⟩
  rw [List.filter_eq_nil_iff]
  rintro ⟨a, x⟩ hx
  obtain ⟨b, rfl⟩ : ∃ b, a = .gateway b := honly.yields (Program.ends_run _ _ _).yields _ hx
  exact Bool.false_ne_true

theorem indifferent_operate (op : Gateway.Operation) (preferred : Option String) :
    (gateway (op.task preferred)).run.Indifferent (serve Player.backend) Alike isOwn := by
  rintro p _ ⟨player, hplayer, rfl⟩
  have h := (Gateway.made_task op preferred).indifferent p.clock p.service player hplayer
  refine ⟨?_, ?_, by rw [isOwn_gateway, isOwn_gateway]⟩
  · rw [run_gateway, run_gateway]
    exact h.result
  · rw [run_gateway, run_gateway]
    exact ⟨_, h.state, rfl⟩

theorem Made.indifferent {preferred : Option String} {steps : Action → Prop} {α : Type}
    {q : Program interface α} (h : Made preferred steps q) :
    q.Indifferent (serve Player.backend) Alike isOwn := by
  induction h with
  | pure a => exact Program.indifferent_pure a
  | step hown _ => exact indifferent_step hown
  | operate op => exact indifferent_operate op preferred
  | bind _ _ ihq ihf => exact ihq.bind ihf

/-! ## Deeds -/

/-- If the service changes by itself, then by a hook that leaves renewals effective. -/
def Deed.Effective : Deed Player → Prop
  | .intervene change => ∃ hook : Hook, hook ≠ .ineffectiveRefresh true ∧ change = hook.apply
  | _ => True

theorem Hook.alike {hook : Hook} {player player' : Player} (hhook : hook ≠ .ineffectiveRefresh true)
    (now : Instant) (h : player.Alike player') :
    (hook.apply now player).Alike (hook.apply now player') := by
  obtain ⟨heffective, valid, count, rfl⟩ := h
  cases hook with
  | expireCredentials => exact ⟨heffective, false, count, rfl⟩
  | ineffectiveRefresh on =>
    cases on with
    | true => exact absurd rfl hhook
    | false => exact ⟨rfl, valid, count, rfl⟩
  | offline | devices | finishCurrent | playExternally => exact ⟨heffective, valid, count, rfl⟩

theorem alike_effect {d : Deed Player} (hd : d.Effective) (h : p.Alike p') :
    (d.effect p).Alike (d.effect p') := by
  obtain ⟨player, hplayer, rfl⟩ := h
  cases d with
  | intervene change =>
    obtain ⟨hook, hhook, rfl⟩ := hd
    exact ⟨_, hook.alike hhook p.clock hplayer, rfl⟩
  | _ => exact ⟨player, hplayer, rfl⟩

theorem told_filter_isOwn (t : List (Exchange interface)) : told (t.filter isOwn) = told t := by
  unfold told
  rw [List.filterMap_filter]
  refine List.filterMap_congr fun x _ => ?_
  obtain ⟨a, x⟩ := x
  cases a <;> rfl

/-- A deed cannot tell parties apart that are alike. -/
theorem matches_deed {d : Deed Player} (hd : d.Effective) (h : p.Alike p') :
    d.result Player.backend p' = d.result Player.backend p ∧
      told (d.exchanges Player.backend p') = told (d.exchanges Player.backend p) ∧
      (d.after Player.backend p).Alike (d.after Player.backend p') := by
  have heffect := alike_effect hd h
  have hprogram : d.program p' = d.program p := by
    obtain ⟨player, -, rfl⟩ := h
    cases d <;> rfl
  have hmatches := (d.made_program p).indifferent _ _ heffect
  refine ⟨?_, ?_, ?_⟩
  · unfold Deed.result
    rw [hprogram]
    exact hmatches.result
  · rw [Deed.exchanges_eq, Deed.exchanges_eq, hprogram, ← told_filter_isOwn, hmatches.trace,
      told_filter_isOwn]
  · rw [Deed.after_eq, Deed.after_eq, hprogram]
    exact hmatches.state

/-! ## Runs -/

/-- What happens at a party. -/
inductive Happening where
  | deed (d : Deed Player)
  /-- The credentials expire. -/
  | expiry

/-- What is seen of a deed. -/
structure Sighting where
  deed : Deed Player
  /-- What is answered. -/
  result : deed.Result
  /-- What observers are told. -/
  news : List Occurrence
  /-- The queues afterwards. -/
  store : Queue.Store
  /-- What the scheduler remembers afterwards. -/
  memory : Scheduler.Memory

/-- What is seen of all deeds, and the party in the end. -/
def watch (p : Party Player) : List Happening → List Sighting × Party Player
  | [] => ([], p)
  | .expiry :: hs => watch { p with service := p.service.expireCredentials } hs
  | .deed d :: hs =>
    let after := d.after Player.backend p
    let (seen, last) := watch after hs
    (⟨d, d.result Player.backend p, told (d.exchanges Player.backend p), after.store, after.memory⟩ ::
      seen, last)

/-- The same deeds while the credentials do not expire. -/
def undisturbed (hs : List Happening) : List Happening :=
  hs.filter fun
    | .deed _ => true
    | .expiry => false

theorem watch_alike {hs : List Happening} (hhs : ∀ d, .deed d ∈ hs → d.Effective) (h : p.Alike p') :
    (watch p' hs).1 = (watch p (undisturbed hs)).1 ∧
      (watch p (undisturbed hs)).2.Alike (watch p' hs).2 := by
  induction hs generalizing p p' with
  | nil => exact ⟨rfl, h⟩
  | cons happening hs ih =>
    have hrest : ∀ d, .deed d ∈ hs → d.Effective := fun d hd => hhs d (List.mem_cons_of_mem _ hd)
    cases happening with
    | expiry =>
      obtain ⟨player, ⟨heffective, valid, count, rfl⟩, rfl⟩ := h
      exact ih hrest ⟨_, ⟨heffective, false, count, rfl⟩, rfl⟩
    | deed d =>
      obtain ⟨hresult, htold, hafter⟩ := matches_deed (hhs d List.mem_cons_self) h
      obtain ⟨hseen, hlast⟩ := ih hrest hafter
      refine ⟨?_, hlast⟩
      have hsame : (d.after Player.backend p').store = (d.after Player.backend p).store ∧
          (d.after Player.backend p').memory = (d.after Player.backend p).memory := by
        obtain ⟨player, -, heq⟩ := hafter
        rw [heq]
        exact ⟨rfl, rfl⟩
      simp only [watch, undisturbed, List.filter_cons_of_pos]
      rw [hresult, htold, hsame.1, hsame.2, hseen]
      rfl

/-- **Expired credentials go unnoticed.**  As long as renewing the credentials helps, whatever is done at
a party over the simulated service, and however often the credentials expire between two deeds: every deed
is answered as if they had not expired, tells observers the same, and leaves the same queues and the same
memory of the scheduler.  In the end the parties differ at most in whether the credentials are valid and
in how often they were renewed. -/
theorem expiry_unnoticed {p : Party Player} {hs : List Happening}
    (heffective : p.service.refreshIneffective = false) (hhs : ∀ d, .deed d ∈ hs → d.Effective) :
    (watch p hs).1 = (watch p (undisturbed hs)).1 ∧ ∃ valid count,
      (watch p hs).2 = { (watch p (undisturbed hs)).2 with
        service := { (watch p (undisturbed hs)).2.service with
          credentialsValid := valid
          refreshCount := count } } := by
  have hself : p.Alike p :=
    ⟨p.service, ⟨heffective, p.service.credentialsValid, p.service.refreshCount, rfl⟩, rfl⟩
  obtain ⟨hseen, player, ⟨-, valid, count, rfl⟩, hlast⟩ := watch_alike hhs hself
  exact ⟨hseen, valid, count, hlast⟩

/-- The credentials expire before a track is looked up, started and reported, and once while the service
is offline. -/
theorem expiry_unnoticed_renewed :
    let a : Track := ⟨⟨"a"⟩, "A", "", "", 180000, ""⟩
    let p := Party.new ⟨none, none, 10⟩ ⟨2000, 5, 10000⟩ (fun _ => ⟨"s"⟩) (Player.new [a]) default
    let hs : List Happening := [.deed (.join none true), .expiry,
      .deed (.request (.add ⟨"s"⟩ ⟨"a"⟩ .normal)), .expiry, .deed .tick, .deed (.wait 2000),
      .deed (.intervene (Hook.offline true).apply), .expiry, .deed .tick,
      .deed (.intervene (Hook.offline false).apply), .deed .tick]
    p.service.refreshIneffective = false ∧ (∀ d, .deed d ∈ hs → d.Effective) ∧
      (watch p hs).1 = (watch p (undisturbed hs)).1 ∧
      (watch p hs).2.memory.state = .playing ∧
      (watch p hs).2.service.refreshCount = 3 ∧
      (watch p (undisturbed hs)).2.service.refreshCount = 0 := by
  intro a p hs
  have hhs : ∀ d, .deed d ∈ hs → d.Effective := by
    simp only [hs, List.mem_cons, List.not_mem_nil, or_false, Happening.deed.injEq, reduceCtorEq,
      false_or]
    rintro d (rfl | rfl | rfl | rfl | rfl | rfl | rfl | rfl)
    · trivial
    · trivial
    · trivial
    · trivial
    · exact ⟨.offline true, nofun, rfl⟩
    · trivial
    · exact ⟨.offline false, nofun, rfl⟩
    · trivial
  have h := expiry_unnoticed (p := p) rfl hhs
  exact ⟨rfl, hhs, h.1, by decide +kernel, by decide +kernel, by decide +kernel⟩

end Jukebox.Party
