import PacketLink.Proofs.Config.Checks
import PacketLink.Proofs.Frame.Codec
import PacketLink.Proofs.Link.Script
import PacketLink.Proofs.Link.Teardown
import PacketLink.Proofs.Session.Termination

/-!
# Sessions that come to their end

* `Suits config worker`: the worker is one for these settings, as is that of a link with them
  (`worker?_suits`).
* `CanEnd config w`: nothing keeps a session from coming to its end by itself.
* `run_comesTo`: then it does, if its event loop may take enough turns. The one thing that settings
  and schedule leave open is whether receiving fails for ever (`CanEnd.of_validate`).
-/

namespace PacketLink.Session

open Host Reactor

variable {config : SessionConfig} {resolver : Resolver} {link : LinkSocket} {worker : Worker}
  {w : World}

/-! ## Workers and settings -/

/-- The worker is one for these settings. -/
def Suits (config : SessionConfig) : Worker → Prop
  | .receiver _ => config.role = .receiver
  | .transmitter x => config.role = .transmitter ∧ x.plan.delay = config.txDelay ∧
    x.plan.payloadLength = config.payloadLength

theorem worker?_suits (hc : link.config = config.link)
    (hw : link.worker? config.traffic = .ok worker) : Suits config worker := by
  have hrole : link.config.role = config.role := congrArg LinkConfig.role hc
  unfold LinkSocket.worker? at hw
  split at hw
  · cases hw
  · split at hw
    · cases hw
    · cases hw
    · cases hr : link.config.role with
      | receiver =>
        rw [hr] at hw
        cases hw
        exact hrole.symm.trans hr
      | transmitter =>
        rw [hr] at hw
        cases hw
        exact ⟨hrole.symm.trans hr, rfl, rfl⟩

/-- Only a transmitter with too large a payload panics. -/
theorem Suits.panics (hs : Suits config worker) (hp : worker.panics = true) :
    config.role = .transmitter ∧ Frame.panics config.payloadLength = true := by
  cases worker with
  | receiver x => cases hp
  | transmitter x =>
    obtain ⟨hrole, -, hpayload⟩ := hs
    exact ⟨hrole, hpayload ▸ hp⟩

/-! ## What keeps a session from its end -/

/-- Nothing keeps a session from coming to its end by itself. -/
structure CanEnd (config : SessionConfig) (w : World) : Prop where
  /-- It is asked to stop, or will be at a time. -/
  stops : Stops w
  /-- A transmitter pauses between frames, because no time passes while a worker is called. -/
  pauses : config.role = .transmitter → 0 < config.txDelay
  /-- There is memory for what a transmitter sends. -/
  fits : config.role = .transmitter → Frame.panics config.payloadLength = false
  /-- Receiving does not fail for ever. -/
  recovers : config.role = .receiver → w.host.script.Recovers

/-- Settings that were checked keep no session from its end. -/
theorem CanEnd.of_validate {pageSize : Nat} {c : Config} (hv : c.validate pageSize = .ok config)
    (hs : Stops w) (hr : config.role = .receiver → w.host.script.Recovers) : CanEnd config w where
  stops := hs
  pauses hrole := by
    have hd := (Config.validate_eq_ok_iff.mp hv).delay
    rw [hrole] at hd
    unfold Config.delay at hd
    split at hd
    · rename_i h
      cases h
    · cases hd
    · split at hd
      · rename_i hms
        cases hd
        exact hms.1
      · cases hd
  fits _ := Frame.panics_eq_false (Config.validate_eq_ok_iff.mp hv).payload_le
  recovers := hr

theorem CanEnd.paces (h : CanEnd config w) (hs : Suits config worker) :
    worker.Paces w.host.script := by
  cases worker with
  | receiver x => exact h.recovers hs
  | transmitter x =>
    obtain ⟨hrole, hdelay, -⟩ := hs
    exact Nat.lt_of_lt_of_eq (h.pauses hrole) hdelay.symm

theorem CanEnd.not_panics (h : CanEnd config w) (hs : Suits config worker) :
    worker.panics = false := by
  refine Bool.eq_false_iff.mpr fun hp => ?_
  obtain ⟨hrole, hpayload⟩ := hs.panics hp
  exact absurd hpayload (Bool.eq_false_iff.mp (h.fits hrole))

/-! ## Up to the event loop -/

/-- What lies ahead of a session: how the kernel behaves, and when it is to stop. -/
def outlook (w : World) : Script × Schedule × Bool := (w.host.script, w.schedule, w.stopped)

theorem CanEnd.congr {w' : World} (h : CanEnd config w) (ho : outlook w' = outlook w) :
    CanEnd config w' := by
  simp only [outlook, Prod.mk.injEq] at ho
  obtain ⟨hscript, hschedule, hstopped⟩ := ho
  refine ⟨?_, h.pauses, h.fits, hscript ▸ h.recovers⟩
  rw [Stops, hstopped, hschedule]
  exact h.stops

theorem step_outlook {act : Sys (Except LinkError Unit × LinkSocket)} (name : String)
    (ha : Keeps script act) : Keeps outlook (step name act) :=
  fun w => congrArg (·, w.schedule, w.stopped) (ha w.host)

theorem setUp_outlook (link : LinkSocket) : Keeps outlook (setUp config resolver link) := by
  refine (step_outlook _ (link.open_script resolver)).bind fun ⟨opened, link⟩ => ?_
  cases opened with
  | error f => exact .pure _
  | ok =>
    refine (step_outlook _ link.bind_script).bind fun ⟨bound, link⟩ => ?_
    cases bound with
    | error f => exact .pure _
    | ok => exact step_outlook _ (link.move_script _ _ _ _)

theorem enlist_outlook (link : LinkSocket) : Keeps outlook (enlist config link) := by
  unfold enlist
  cases link.worker? config.traffic with
  | error e => exact .pure _
  | ok worker =>
    refine Keeps.get.bind fun w => ?_
    cases w.refusal with
    | some cause => exact .pure _
    | none => exact Keeps.bind (.modify fun _ => rfl) fun _ => .pure _

theorem setUp_lasts {c : LinkConfig} (hl : link.Lasts c) :
    Gives (fun a => a.2.Lasts c) (setUp config resolver link) := by
  have hstep {act : Sys (Except LinkError Unit × LinkSocket)} (name : String)
      (ha : Gives (fun a => a.2.Lasts c) act) : Gives (fun a => a.2.Lasts c) (step name act) :=
    fun w => ha w.host
  refine (hstep _ (hl.open resolver)).bind fun ⟨opened, link⟩ hl => ?_
  cases opened with
  | error f => exact .pure hl
  | ok =>
    refine (hstep _ hl.bind).bind fun ⟨bound, link⟩ hl => ?_
    cases bound with
    | error f => exact .pure hl
    | ok => exact hstep _ hl.start

theorem start?_outlook {c : Run Worker × World} (h : start? config resolver w = some c) :
    outlook c.2 = outlook w := by
  obtain ⟨link, w₁, worker, hsetUp, henlist, -⟩ := enlist_of_start? h
  calc outlook c.2
    _ = outlook ((enlist config link).run w₁).2 := by rw [henlist]
    _ = outlook w₁ := enlist_outlook link w₁
    _ = outlook ((setUp config resolver (.new config.link)).run w).2 := by rw [hsetUp]
    _ = outlook w := setUp_outlook (.new config.link) w

/-! ## To the end -/

/-- The session came to its end by itself. -/
def Ending.IsReached : Ending → Prop
  | .finished _ | .failed _ => True
  | .abandoned | .panicked => False

theorem conclude_isReached {ending : Reactor.Ending} (he : ending ≠ .abandoned)
    (link : LinkSocket) : Gives (·.1.IsReached) (conclude link (some ending)) := by
  cases ending with
  | finished stats =>
    refine .then fun ⟨stopped, link⟩ => ?_
    cases stopped with
    | error f => exact .pure trivial
    | ok => exact .then fun _ => .pure trivial
  | failed e => exact .pure trivial
  | abandoned => exact absurd rfl he

theorem tearDown_isReached {ending : Ending} (he : ending.IsReached) (link : LinkSocket) :
    Gives Ending.IsReached (tearDown ending link) := by
  refine .then fun ⟨closed, _⟩ => .then fun _ => ?_
  cases ending with
  | finished stats => cases closed <;> exact .pure trivial
  | failed f =>
    cases closed with
    | ok => exact .pure trivial
    | error e => exact .then fun _ => .pure trivial
  | abandoned => exact he.elim
  | panicked => exact he.elim

theorem giveBack_isReached {ending : Ending} (he : ending.IsReached) (link : LinkSocket) :
    Gives Ending.IsReached (giveBack ending link) := by
  cases ending with
  | finished stats => exact tearDown_isReached he link
  | failed f => exact tearDown_isReached he link
  | abandoned => exact he.elim
  | panicked => exact he.elim

theorem work_comesTo (hl : link.Lasts config.link) (hw : CanEnd config w) :
    ComesTo (fun turns => work turns config link) w fun a _ => a.1.IsReached := by
  have henlist : ComesTo (fun _ => enlist config link) w fun outcome w' => CanEnd config w' ∧
      ∀ worker, outcome = .ok worker → Suits config worker := by
    refine .of_run ⟨hw.congr (enlist_outlook link w), fun worker ho => ?_⟩
    exact worker?_suits hl.config (worker?_of_enlist (Prod.ext ho rfl))
  refine henlist.bind fun outcome w' ⟨hw', hsuits⟩ => ?_
  cases outcome with
  | error e => exact .of_run trivial
  | ok worker =>
    have hs := hsuits worker rfl
    refine (runWorker_comesTo (hw'.paces hs) (hw'.not_panics hs) hw'.stops).bind ?_
    rintro ⟨-, left⟩ w'' ⟨ending, rfl, hne⟩
    exact .of_run (conclude_isReached hne _ w'')

/-- A session that nothing keeps from its end comes to it, if its event loop may take enough
turns. -/
theorem run_comesTo (hw : CanEnd config w) :
    ComesTo (fun turns => run turns config resolver) w fun ending _ => ending.IsReached := by
  have hdrive : ComesTo (fun turns => drive turns config resolver (.new config.link)) w
      fun a _ => a.1.IsReached := by
    have hnew : (LinkSocket.new config.link).Lasts config.link := ⟨rfl, nofun⟩
    have hsetUp : ComesTo (fun _ => setUp config resolver (.new config.link)) w
        fun a w' => a.2.Lasts config.link ∧ CanEnd config w' :=
      .of_run ⟨setUp_lasts hnew w, hw.congr (setUp_outlook _ w)⟩
    refine hsetUp.bind fun ⟨outcome, link⟩ w' ⟨hl, hw'⟩ => ?_
    cases outcome with
    | error f => exact .of_run trivial
    | ok => exact work_comesTo hl hw'
  exact hdrive.bind fun ⟨ending, link⟩ w' he => .of_run (giveBack_isReached he link w')

end PacketLink.Session
