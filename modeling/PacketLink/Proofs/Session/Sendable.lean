import PacketLink.Proofs.Config.Checks
import PacketLink.Proofs.Frame.Codec
import PacketLink.Proofs.Link.SendRing
import PacketLink.Proofs.Reactor.Calls
import PacketLink.Proofs.Session.World
import PacketLink.Proofs.Traffic.Setting

/-!
# Settings that can always be sent with

* `Transmitter.CanSend`: the frame of the plan can be made, and a slot has room for it. A turn
  leaves a transmitter so, and does not fail with a frame error (`Transmitter.onReady_canSend`).
* `Session.driveLogged`: a session with a list of the calls of its worker, which changes nothing
  (`Session.driveLogged_erases`). `Session.calls` is that list.
* `Sendable pageSize s`: what is to hold of the settings of a transmitter where a page has
  `pageSize` bytes: the frame can be made, the ring takes the number of slots, no slot that the ring
  gives is too small, and no turn in a session fails with a frame error.
* `validate_sendable`: settings that pass the check on a system are such settings for it.
-/

namespace PacketLink

open Host Reactor

/-! ## Transmitters -/

theorem Ring.submitWrite_ne_frame {slot : Slot} {bytes : Bytes}
    (hfit : bytes.length ≤ slot.frameBytes) (r : Ring) (h : Host) (e : FrameError) :
    ((r.submitWrite slot bytes).run h).1.1 ≠ .error (.frame e) := by
  intro he
  cases hrefusal : r.submitRefusal? slot bytes with
  | none =>
    obtain ⟨answer, hqueued, hrun⟩ := submitWrite_run hrefusal h
    rw [hrun] at he
    cases he
    cases hqueued
  | some e' =>
    rw [submitWrite_run_refused hrefusal] at he
    cases he
    simp only [submitRefusal?, Nat.not_lt.mpr hfit, if_false] at hrefusal
    split at hrefusal
    · cases hrefusal
    · split at hrefusal <;> cases hrefusal

/-- A slot that a ring has given out has the room of a slot. -/
theorem Ring.frameBytes_of_acquireWrite {r : Ring} {slot : Slot} {h : Host}
    (hs : (r.acquireWrite.run h).1 = .ok (some slot)) :
    slot.frameBytes = sendCapacity r.slotSize := by
  cases hd : r.direction with
  | receive =>
    simp only [acquireWrite, hd] at hs
    cases hs
  | send =>
    rw [acquireWrite_run hd] at hs
    exact (writeSlot?_eq_some (Except.ok.inj hs)).2.2.2.2

namespace Transmitter

/-- The frame of the plan can be made, and if the channel is a ring, its slots have room for it. -/
def CanSend (x : Transmitter) : Prop :=
  ∃ f, x.plan.frame = .ok f ∧ ∀ r, x.channel = .ring r →
    r.direction = .send ∧ f.encode.length ≤ Ring.sendCapacity r.slotSize

theorem sendToSocket_ne_frame (s : PacketSocket) (plan : TransmitPlan) (bytes : Bytes) (h : Host)
    (e : FrameError) : ((sendToSocket s plan bytes).run h).1 ≠ .error (.frame e) := by
  rw [sendToSocket, run_bind]
  cases ((s.send bytes plan.destination).run h).1 with
  | error cause =>
    rw [run_pure]
    dsimp only
    split <;> exact nofun
  | ok written =>
    rw [run_pure]
    dsimp only
    split <;> exact nofun

/-- Bytes for which a slot has room are put into the ring, or have to wait. -/
theorem sendToRing_ne_frame {r r' : Ring} {bytes : Bytes} {h h' : Host}
    {answer : Except LinkError Bool} (hd : r.direction = .send)
    (hfit : bytes.length ≤ Ring.sendCapacity r.slotSize)
    (hr : (sendToRing r bytes).run h = ((answer, r'), h')) :
    (∀ e, answer ≠ .error (.frame e)) ∧ r'.direction = .send ∧ r'.slotSize = r.slotSize := by
  cases hw : r.writeSlot? (r.memory h) with
  | none =>
    rw [sendToRing_run_none hd hw] at hr
    cases hr
    exact ⟨nofun, hd, rfl⟩
  | some slot =>
    obtain ⟨-, hindex, -, hstatus, hbytes⟩ := Ring.writeSlot?_eq_some hw
    have hfit' : bytes.length ≤ slot.frameBytes := hbytes ▸ hfit
    have hrefusal := (Ring.submitRefusal?_eq_none hd hindex hstatus).mpr hfit'
    obtain ⟨h₁, -, -, hsent⟩ := sendToRing_run hd hw bytes
    obtain ⟨sent, -, hsubmit⟩ := Ring.submitWrite_run hrefusal h₁
    have hne := Ring.submitWrite_ne_frame hfit' r h₁
    rw [hsubmit] at hne
    rw [hsent hsubmit] at hr
    cases hr
    refine ⟨fun e he => ?_, hd, rfl⟩
    cases sent with
    | error e' =>
      cases he
      exact hne e rfl
    | ok => cases he

variable {x x' : Transmitter}

/-- A turn does not fail with a frame error. -/
theorem onReady_canSend (hx : x.CanSend) {answer : Except LinkError Dispatch} {h h' : Host}
    (hr : x.onReady.run h = ((answer, x'), h')) :
    x'.CanSend ∧ ∀ e, answer ≠ .error (.frame e) := by
  obtain ⟨f, hf, hring⟩ := hx
  obtain ⟨⟨⟨sent, x₁⟩, h₁⟩, hsend⟩ : ∃ t, (x.send f.encode).run h = t := ⟨_, rfl⟩
  have hsent : x₁.CanSend ∧ ∀ e, sent ≠ .error (.frame e) := by
    unfold send at hsend
    cases hc : x.channel with
    | socket s =>
      have hne := sendToSocket_ne_frame s x.plan f.encode h
      rw [hc] at hsend
      simp only [run_bind, run_pure] at hsend
      cases hsend
      exact ⟨⟨f, hf, hring⟩, hne⟩
    | ring r =>
      obtain ⟨hd, hfit⟩ := hring r hc
      obtain ⟨⟨⟨answer', r'⟩, h₂⟩, hrun⟩ : ∃ t, (sendToRing r f.encode).run h = t := ⟨_, rfl⟩
      obtain ⟨hne, hd', hsize⟩ := sendToRing_ne_frame hd hfit hrun
      rw [hc] at hsend
      simp only [run_bind, run_pure, hrun] at hsend
      cases hsend
      refine ⟨⟨f, hf, fun r'' hr'' => ?_⟩, hne⟩
      cases hr''
      exact ⟨hd', hsize ▸ hfit⟩
  obtain ⟨hx₁, hne⟩ := hsent
  unfold onReady at hr
  simp only [hf, run_bind, hsend] at hr
  cases sent with
  | error e =>
    cases hr
    exact ⟨hx₁, fun e' he' => hne e' (by cases he'; rfl)⟩
  | ok taken =>
    cases taken with
    | false =>
      cases hr
      exact ⟨hx₁, nofun⟩
    | true =>
      cases hr
      exact ⟨hx₁, nofun⟩

end Transmitter

/-! ## Sessions -/

theorem LinkSocket.Move.opened_ready {resolver : Resolver} {state state' : LinkState}
    (h : Move (.open resolver) true state state') : state' = .ready := by
  cases h
  rfl

theorem LinkSocket.Move.bind_bound {state state' : LinkState} (h : Move .bind true state state') :
    state' = .bound := by
  cases h
  rfl

namespace Session

/-- Runs the event loop over a worker, with a list of its calls as long as it does not panic. -/
def runWorkerLogged (turns : Nat) (worker : Worker) :
    StateM (World × List (Called Worker))
      (Option Reactor.Ending × List (Watcher Worker)) := do
  if worker.panics then beside (runPanicking turns worker)
  else
    let (ending, left) ← Reactor.run surroundings.logged turns [watcherOf worker]
    pure (some ending, left)

/-- Runs the event loop over the worker of a running link, with a list of its calls, and stops the
link. -/
def workLogged (turns : Nat) (config : SessionConfig) (link : LinkSocket) :
    StateM (World × List (Called Worker)) (Ending × LinkSocket) := do
  match ← beside (enlist config link) with
  | .error e => pure (.failed ⟨some "Failed to register link socket", e⟩, link)
  | .ok worker =>
    let (ending, left) ← runWorkerLogged turns worker
    beside (conclude (withWorkers link left) ending)

/-- Takes a link through its life, except for closing it, with a list of the calls of its worker. -/
def driveLogged (turns : Nat) (config : SessionConfig) (resolver : Resolver) (link : LinkSocket) :
    StateM (World × List (Called Worker)) (Ending × LinkSocket) := do
  match ← beside (setUp config resolver link) with
  | (.error f, link) => pure (.failed f, link)
  | (.ok (), link) => workLogged turns config link

/-- Runs a session with a list of the calls of its worker. -/
def runLogged (turns : Nat) (config : SessionConfig) (resolver : Resolver) :
    StateM (World × List (Called Worker)) Ending := do
  let (ending, link) ← driveLogged turns config resolver (.new config.link)
  beside (giveBack ending link)

/-- The calls of the worker in a session. -/
def calls (turns : Nat) (config : SessionConfig) (resolver : Resolver) (w : World) :
    List (Called Worker) :=
  ((runLogged turns config resolver).run (w, [])).2.2

variable {config : SessionConfig} {resolver : Resolver} {link : LinkSocket} {w w' : World}

theorem runWorkerLogged_erases (turns : Nat) (worker : Worker) :
    Erases (runWorkerLogged turns worker) (runWorker turns worker) := by
  unfold runWorkerLogged runWorker
  split
  · exact .beside _
  · exact (Run.loop_erases surroundings _ _).bind fun _ => .pure _

theorem workLogged_erases (turns : Nat) (config : SessionConfig) (link : LinkSocket) :
    Erases (workLogged turns config link) (work turns config link) := by
  refine (Erases.beside _).bind fun enlisted => ?_
  cases enlisted with
  | error e => exact .pure _
  | ok worker => exact (runWorkerLogged_erases turns worker).bind fun _ => .beside _

theorem driveLogged_erases (turns : Nat) (config : SessionConfig) (resolver : Resolver)
    (link : LinkSocket) :
    Erases (driveLogged turns config resolver link) (drive turns config resolver link) := by
  refine (Erases.beside _).bind fun a => ?_
  obtain ⟨_ | _, link⟩ := a
  · exact .pure _
  · exact workLogged_erases turns config link

/-- The list changes nothing in a session. -/
theorem runLogged_erases (turns : Nat) (config : SessionConfig) (resolver : Resolver) :
    Erases (runLogged turns config resolver) (run turns config resolver) :=
  (driveLogged_erases turns config resolver _).bind fun _ => .beside _

/-- A link that was set up runs with the configuration of the session, and sends through slots of a
page. -/
theorem setUp_ok
    (hr : (setUp config resolver (.new config.link)).run w = ((.ok (), link), w')) :
    link.Coherent ∧ link.state = .running ∧ link.config = config.link ∧
      link.transport.SendsIn w.host.pageSize := by
  obtain ⟨⟨⟨opened, link₁⟩, h₁⟩, hopen⟩ :
    ∃ t, ((LinkSocket.new config.link).open resolver).run w.host = t := ⟨_, rfl⟩
  have hdone := LinkSocket.open_done (l := .new config.link) rfl resolver w.host
  have hsends := LinkSocket.open_sendsIn (l := .new config.link) (n := w.host.pageSize) trivial
    resolver w.host
  have hscript := LinkSocket.open_script (.new config.link) resolver w.host
  rw [hopen] at hdone hsends hscript
  rw [setUp, run_bind, step_run _ hopen] at hr
  obtain e | ⟨⟨⟩⟩ := opened
  · cases hr
  · have hready : link₁.state = .ready := hdone.move.opened_ready
    obtain ⟨⟨⟨bound, link₂⟩, h₂⟩, hbind⟩ : ∃ t, link₁.bind.run h₁ = t := ⟨_, rfl⟩
    have hdone₂ := LinkSocket.bind_done hdone.coherent hready h₁
    have hsends₂ := LinkSocket.bind_sendsIn (l := link₁) (h := h₁)
      (by rw [pageSize_congr hscript]; exact hsends)
    rw [hbind] at hdone₂ hsends₂
    dsimp only [Except.mapError] at hr
    rw [run_bind, step_run (w := { w with host := h₁ }) _ hbind] at hr
    obtain e | ⟨⟨⟩⟩ := bound
    · cases hr
    · have hbound : link₂.state = .bound := hdone₂.move.bind_bound
      have hstart : (link₂.start.run h₂).1 = (.ok (), { link₂ with state := .running }) :=
        LinkSocket.move_run (by rw [hbound]; decide) _ _ _ h₂
      have hdone₃ := LinkSocket.start_done hdone₂.coherent (by rw [hbound]; decide) h₂
      rw [hstart] at hdone₃
      dsimp only [Except.mapError] at hr
      rw [step_run (w := { w with host := h₂ }) _ (Prod.ext hstart rfl)] at hr
      cases hr
      refine ⟨hdone₃.coherent, rfl, hdone₂.config.trans hdone.config, ?_⟩
      rw [← pageSize_congr hscript]
      exact hsends₂

/-- The calls are those of the worker that the link gives, if setting it up goes well. -/
theorem calls_cases (turns : Nat) (config : SessionConfig) (resolver : Resolver) (w : World) :
    calls turns config resolver w = [] ∨ ∃ link w₁ worker w₂,
      (setUp config resolver (.new config.link)).run w = ((.ok (), link), w₁) ∧
        link.worker? config.traffic = .ok worker ∧ calls turns config resolver w =
          ((Reactor.run surroundings.logged turns [watcherOf worker]).run (w₂, [])).2.2 := by
  have hdrive : calls turns config resolver w =
      ((driveLogged turns config resolver (.new config.link)).run (w, [])).2.2 := by
    rw [calls, runLogged, run_bind]
    exact beside_keeps _ _
  obtain ⟨⟨⟨outcome, link⟩, w₁⟩, hsetUp⟩ :
    ∃ t, (setUp config resolver (.new config.link)).run w = t := ⟨_, rfl⟩
  rw [driveLogged, run_bind, beside_run hsetUp] at hdrive
  obtain f | ⟨⟨⟩⟩ := outcome
  · exact .inl hdrive
  · obtain ⟨⟨enlisted, w₂⟩, henlist⟩ : ∃ t, (enlist config link).run w₁ = t := ⟨_, rfl⟩
    dsimp only at hdrive
    rw [workLogged, run_bind, beside_run henlist] at hdrive
    cases enlisted with
    | error e => exact .inl hdrive
    | ok worker =>
      dsimp only at hdrive
      rw [run_bind] at hdrive
      have hcalls := hdrive.trans (beside_keeps _ _)
      unfold runWorkerLogged at hcalls
      split at hcalls
      · exact .inl (hcalls.trans (beside_keeps _ _))
      · exact .inr ⟨link, w₁, worker, w₂, hsetUp, worker?_of_enlist henlist, hcalls⟩

end Session

/-! ## Checked settings -/

/-- What is to hold of the settings of a transmitter where a page has `pageSize` bytes. -/
structure Sendable (pageSize : Nat) (s : SessionConfig) : Prop where
  /-- There is memory for the payload, and the frame can be made. -/
  synthetic : Frame.panics s.payloadLength = false ∧ ∀ source, ∃ f,
    Frame.synthetic s.kind source s.linkSap s.payloadLength = .ok f
  /-- The ring takes the number of slots. -/
  frames : ∀ n, s.ringFrames = some n → Ring.validFrames n = .ok n
  /-- Whatever slot a ring has given out, the frame has room in it, so whatever ring it is submitted
  to then, it is not refused as too large. -/
  fits : s.ringFrames.isSome = true → ∀ source f,
    Frame.synthetic s.kind source s.linkSap s.payloadLength = .ok f →
      ∀ (r : Ring) (h : Host) slot, r.slotSize = pageSize →
        (r.acquireWrite.run h).1 = .ok (some slot) → f.encode.length ≤ slot.frameBytes ∧
          ∀ (r' : Ring) (h' : Host) e,
            ((r'.submitWrite slot f.encode).run h').1.1 ≠ .error (.frame e)
  /-- However many turns a session on such a system takes, none of them fails with a frame error. -/
  turns : ∀ n resolver (w : Session.World), w.host.pageSize = pageSize →
    ∀ c ∈ Session.calls n s resolver w, ∀ e, c.answer ≠ .error (.frame e)
  /-- The list of the calls changes nothing in a session. -/
  unlogged : ∀ n resolver, Erases (Session.runLogged n s resolver) (Session.run n s resolver)

theorem surroundings_upholds : Upholds Session.surroundings
    (fun b => ∃ x, b = .transmitter x ∧ x.CanSend)
    (fun c => ∀ e, c.answer ≠ .error (.frame e)) := by
  rintro b w answer left w' ⟨x, rfl, hx⟩ hr
  obtain ⟨⟨⟨answer', x'⟩, h'⟩, hturn⟩ : ∃ t, x.onReady.run w.host = t := ⟨_, rfl⟩
  obtain ⟨hx', hne⟩ := Transmitter.onReady_canSend hx hturn
  have hworker : (Worker.transmitter x).onReady.run w.host = ((answer', .transmitter x'), h') := by
    rw [Worker.onReady, run_bind, hturn]
    rfl
  rw [show (Session.surroundings.onReady (.transmitter x)).run w = _ from
    Session.onHost_run hworker] at hr
  cases hr
  exact ⟨⟨x', rfl, hx'⟩, hne⟩

variable {pageSize : Nat} {c : Config} {s : SessionConfig}

/-- The worker of a session with checked settings can send. -/
theorem Config.Passed.canSend (h : Passed pageSize c s) (hr : s.role = .transmitter)
    (hp : 4096 ≤ pageSize) {resolver : Resolver} {link : LinkSocket} {w w' : Session.World}
    (hw : w.host.pageSize = pageSize)
    (hs : (Session.setUp s resolver (.new s.link)).run w = ((.ok (), link), w'))
    {worker : Worker} (hworker : link.worker? s.traffic = .ok worker) :
    ∃ x, worker = .transmitter x ∧ x.CanSend := by
  obtain ⟨hcoherent, hstate, hconfig, hsends⟩ := Session.setUp_ok hs
  have hrole : link.config.role = .transmitter := by
    rw [hconfig]
    exact hr
  obtain ⟨interface, channel, rfl, hchannel, hring⟩ :=
    LinkSocket.worker?_transmitter hworker hrole hsends
  obtain ⟨f, hf, htest⟩ := Frame.synthetic_eq_ok h.payload_le interface.mac s.linkSap
  refine ⟨_, rfl, f, ?_, ?_⟩
  · rw [TransmitPlan.frame, LinkSocket.plan, hconfig]
    exact hf
  · rintro r rfl
    obtain ⟨hd, hsize⟩ := hring r rfl
    have hrings := LinkSocket.isSome_ringFrames hcoherent hstate hchannel
    rw [hconfig] at hrings
    obtain ⟨n, hn⟩ := Option.isSome_iff_exists.mp hrings
    refine ⟨hd, ?_⟩
    rw [htest.length_encode, hsize, hw]
    exact h.room hp hr hn

/-- Settings that pass the check on a system are settings that can be sent with there. -/
theorem validate_sendable (hv : c.validate pageSize = .ok s) (hr : s.role = .transmitter)
    (hp : 4096 ≤ pageSize) : Sendable pageSize s := by
  have hpassed := Config.validate_eq_ok_iff.mp hv
  have hsynthetic (source : MacAddr) := Frame.synthetic_eq_ok hpassed.payload_le source s.linkSap
  refine ⟨⟨Frame.panics_eq_false hpassed.payload_le, fun source => ?_⟩, fun n hn => ?_, ?_, ?_,
    fun n resolver => Session.runLogged_erases n s resolver⟩
  · obtain ⟨f, hf, -⟩ := hsynthetic source
    exact ⟨f, hf⟩
  · have hframes := hpassed.frames
    rw [hn] at hframes
    rw [Ring.validFrames, if_pos (Config.isFrameCount_of_frames hframes)]
  · intro hring source f hf r h slot hsize hslot
    obtain ⟨n, hn⟩ := Option.isSome_iff_exists.mp hring
    obtain ⟨f', hf', htest⟩ := hsynthetic source
    obtain rfl := Except.ok.inj (hf.symm.trans hf')
    have hroom : f.encode.length ≤ slot.frameBytes := by
      rw [Ring.frameBytes_of_acquireWrite hslot, hsize, htest.length_encode]
      exact hpassed.room hp hr hn
    exact ⟨hroom, fun r' h' e => Ring.submitWrite_ne_frame hroom r' h' e⟩
  · intro n resolver w hpage
    rcases Session.calls_cases n s resolver w with
      hnone | ⟨link, w₁, worker, w₂, hsetUp, hworker, hcalls⟩
    · intro c hc
      rw [hnone] at hc
      cases hc
    · rw [hcalls]
      refine run_upholds surroundings_upholds n (fun watcher hw => ?_) w₂
      obtain ⟨x, rfl, hx⟩ := hpassed.canSend hr hp hpage hsetUp hworker
      cases List.mem_singleton.mp hw
      exact ⟨x, rfl, hx⟩

/-- The longest raw frame that has room in a slot of the smallest page. -/
theorem validate_sendable_longest : ∃ s : SessionConfig,
    Config.validate 4096 ⟨some .transmit, some 1, some 0x88B5, some "lo", some .raw, some true,
      some 2, some 4064⟩ = .ok s ∧
    s.role = .transmitter ∧ 4096 ≤ 4096 ∧ Sendable 4096 s := by
  obtain ⟨s, hv, hr⟩ : ∃ s : SessionConfig, Config.validate 4096 ⟨some .transmit, some 1,
      some 0x88B5, some "lo", some .raw, some true, some 2, some 4064⟩ = .ok s ∧
      s.role = .transmitter := ⟨_, rfl, rfl⟩
  exact ⟨s, hv, hr, Nat.le_refl _, validate_sendable hv hr (Nat.le_refl _)⟩

/-- One byte more does not pass. -/
example : (Config.validate 4096 ⟨some .transmit, some 1, some 0x88B5, some "lo", some .raw,
    some true, some 2, some 4065⟩).isOk = false := rfl

end PacketLink
