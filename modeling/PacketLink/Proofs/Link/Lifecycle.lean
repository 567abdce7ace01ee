import PacketLink.Link.Socket
import PacketLink.Proofs.Computation
import PacketLink.Reactor.Basic
import Mathlib.Data.List.Induction

/-!
# The life of a link

* `Operation`: what can be asked of a link, with the states that allow it. A worker that is taken
  out has some turns and is put back.
* `Move`: the arrows along which the state of a link moves.
* `Coherent`: what a link holds in each of its states: nothing before it is opened and after it is
  closed; in between the interface and the descriptors of its configuration, with rings mapped once
  it is bound. Every operation keeps it (`Coherent.run`).
* `lifecycle`: what follows for a link after any operations, each on any host.
-/

namespace PacketLink

/-- Turns of a worker, one after the other. -/
def Worker.turns : Nat → Worker → Sys Worker
  | 0, w => pure w
  | n + 1, w => do
    let (_, w) ← w.onReady
    turns n w

/-- These are the descriptors for a configuration, with all rings mapped or none. -/
def Transport.IsFor (config : LinkConfig) (mapped : Bool) : Transport → Prop
  | .unopened => False
  | .direct _ => config.ringFrames = none
  | .rings rxRing txRing _ _ =>
    config.ringFrames.isSome = true ∧ rxRing.isSome = mapped ∧ txRing.isSome = mapped

/-! ## Failures of setup steps -/

/-- What the steps of setting a link up fail with. -/
def LinkError.IsSetup : LinkError → Prop
  | .configuration _ | .interfaceNotFound _ | .permissionDenied _ | .resource .. => True
  | _ => False

theorem LinkError.isSetup_setup (operation : String) (cause : Errno) :
    (LinkError.setup operation cause).IsSetup := by
  unfold LinkError.setup
  split <;> trivial

/-- What the steps of closing fail with. -/
def LinkError.IsLoss : LinkError → Prop
  | .resource .. | .resourceUnavailable _ => True
  | _ => False

/-- A failure is this cause, or one of several that are listed. -/
def LinkError.Reports (e cause : LinkError) : Prop :=
  e = cause ∨ ∃ failures, e = .teardown failures ∧ cause ∈ failures

/-- Whatever the host, `act` fails only with what setup steps fail with. -/
def FailsInSetup {α : Type} (act : Sys (Except LinkError α)) : Prop :=
  ∀ h e, (act.run h).1 = .error e → e.IsSetup

theorem FailsInSetup.ok {α : Type} (a : α) : FailsInSetup (pure (.ok a)) := nofun

theorem FailsInSetup.error {α : Type} {e : LinkError} (h : e.IsSetup) :
    FailsInSetup (pure (.error e) : Sys (Except LinkError α)) := by
  intro _ _ he
  cases he
  exact h

theorem FailsInSetup.bind {α β : Type} {act : Sys α} {next : α → Sys (Except LinkError β)}
    (hn : ∀ h a, (act.run h).1 = a → FailsInSetup (next a)) : FailsInSetup (act >>= next) :=
  fun h e he => hn h _ rfl _ e he

theorem PacketSocket.open?_fails : FailsInSetup PacketSocket.open? := by
  refine .bind fun h outcome _ => ?_
  cases outcome with
  | error e => exact .error (LinkError.isSetup_setup ..)
  | ok id =>
    refine .bind fun h outcome _ => ?_
    cases outcome with
    | error e => exact .bind fun _ _ _ => .error (LinkError.isSetup_setup ..)
    | ok => exact .ok _

theorem Ring.mapSlots_fails (socket : Option PacketSocket) (d : RingDirection) (capacity : Nat) :
    FailsInSetup (Ring.mapSlots socket d capacity) := by
  refine .bind fun _ h _ => .bind fun _ outcome _ => ?_
  cases outcome with
  | error e => exact .error (LinkError.isSetup_setup ..)
  | ok mapping => exact .ok _

theorem Ring.open?_fails (socket : PacketSocket) (d : RingDirection) (frames : Nat) :
    FailsInSetup (Ring.open? socket d frames) := by
  unfold Ring.open? Ring.validFrames
  by_cases hc : Ring.isFrameCount frames = true
  · rw [if_pos hc]
    refine .bind fun _ h _ => .bind fun _ outcome _ => ?_
    match outcome with
    | .error e => exact .error (LinkError.isSetup_setup ..)
    | .ok () =>
      refine .bind fun _ outcome _ => ?_
      match outcome with
      | .error e => exact .error (LinkError.isSetup_setup ..)
      | .ok () => exact Ring.mapSlots_fails _ _ _
  · rw [if_neg hc]
    exact .error trivial

theorem Resolver.hardwareAddress_fails (name : String) :
    FailsInSetup (Resolver.hardwareAddress name) := by
  refine .bind fun _ outcome _ => ?_
  cases outcome with
  | error e => exact .error (LinkError.isSetup_setup ..)
  | ok s =>
    refine .bind fun _ outcome _ => .bind fun _ _ _ => ?_
    cases outcome with
    | ok mac => exact .ok _
    | error e =>
      by_cases he : e = .noSuchDevice ∨ e = .noSuchAddress
      · simp only [he, if_true]
        exact .error trivial
      · simp only [he, if_false]
        exact .error (LinkError.isSetup_setup ..)

theorem Resolver.unusableName?_isSetup {name : String} {e : LinkError}
    (h : Resolver.unusableName? name = some e) : e.IsSetup := by
  unfold Resolver.unusableName? at h
  split at h
  · cases h
    trivial
  · split at h <;> cases h
    trivial

theorem Resolver.askSystem_fails (name : String) : FailsInSetup (Resolver.askSystem name) := by
  unfold Resolver.askSystem
  cases hu : Resolver.unusableName? name with
  | some e => exact .error (Resolver.unusableName?_isSetup hu)
  | none =>
    refine .bind fun _ outcome _ => ?_
    match outcome with
    | .error e =>
      refine .error ?_
      unfold Resolver.lookupFailure
      split <;> trivial
    | .ok 0 => exact .error trivial
    | .ok (index + 1) =>
      refine .bind fun _ outcome ho => ?_
      cases outcome with
      | error e => exact .error (Resolver.hardwareAddress_fails _ _ _ ho)
      | ok mac => exact .ok _

/-- A resolver fails as setup steps do, or with the failure that it was made for. -/
theorem Resolver.resolve_fails {resolver : Resolver} {name : String} {h : Host} {e : LinkError}
    (he : ((resolver.resolve name).run h).1 = .error e) : e.IsSetup ∨ resolver = .failing e := by
  cases resolver with
  | system => exact .inl (Resolver.askSystem_fails _ _ _ he)
  | fixed interface => cases he
  | failing cause =>
    cases he
    exact .inr rfl

namespace LinkSocket

/-! ## Operations -/

/-- What can be asked of a link. -/
inductive Operation where
  | «open» (resolver : Resolver)
  | bind
  | start
  | stop
  /-- The worker is taken out, has some turns, and is put back. The event queue may refuse to watch
  the descriptor. -/
  | watch (traffic : TrafficOptions) (refusal : Option Errno) (turns : Nat)
  | close

namespace Operation

/-- The name of an operation in its refusal. -/
def name : Operation → String
  | .open _ => "open"
  | .bind => "bind"
  | .start => "start"
  | .stop => "stop"
  | .watch .. => "watch"
  | .close => "close"

/-- The states in which an operation is allowed. -/
def allowed : Operation → List LinkState
  | .open _ => [.undefined]
  | .bind => [.ready]
  | .start => [.bound, .paused]
  | .stop => [.running]
  | .watch .. => [.running]
  | .close => LinkState.all

/-- Does what is asked of a link. -/
def run (l : LinkSocket) : Operation → Sys (Except LinkError Unit × LinkSocket)
  | .open resolver => l.open resolver
  | .bind => l.bind
  | .start => l.start
  | .stop => l.stop
  | .watch traffic refusal turns =>
    match l.worker? traffic, refusal with
    | .error e, _ => pure (.error e, l)
    | .ok _, some cause => pure (.error (.resource Reactor.registration cause), l)
    | .ok worker, none => do
      let worker ← worker.turns turns
      pure (.ok (), l.putBack worker)
  | .close => l.close

end Operation

/-- The arrows along which the state of a link moves, with whether the operation succeeds. -/
inductive Move : Operation → Bool → LinkState → LinkState → Prop where
  | opened (resolver : Resolver) : Move (.open resolver) true .undefined .ready
  | openFailed (resolver : Resolver) : Move (.open resolver) false .undefined .failed
  | bound : Move .bind true .ready .bound
  | bindFailed : Move .bind false .ready .failed
  | started : Move .start true .bound .running
  | resumed : Move .start true .paused .running
  | stopped : Move .stop true .running .paused
  | watched (traffic : TrafficOptions) (turns : Nat) :
    Move (.watch traffic none turns) true .running .running
  | unwatched (traffic : TrafficOptions) (cause : Errno) (turns : Nat) :
    Move (.watch traffic (some cause) turns) false .running .running
  | closed (succeeds : Bool) (state : LinkState) : Move .close succeeds state .closed

variable {l : LinkSocket} {o : Operation} {h : Host}

theorem refusal?_of_mem {operation : String} {allowed : List LinkState} (hm : l.state ∈ allowed) :
    l.refusal? operation allowed = none := if_pos hm

theorem refusal?_of_not_mem {operation : String} {allowed : List LinkState}
    (hm : l.state ∉ allowed) :
    l.refusal? operation allowed = some (.invalidState operation l.state) := if_neg hm

/-- Where an operation is not allowed, it is refused and nothing happens. -/
theorem run_refused (hm : l.state ∉ o.allowed) (h : Host) :
    (o.run l).run h = ((.error (.invalidState o.name l.state), l), h) := by
  have hr : l.refusal? o.name o.allowed = some (.invalidState o.name l.state) :=
    refusal?_of_not_mem hm
  cases o with
  | close =>
    refine absurd ?_ hm
    show l.state ∈ LinkState.all
    cases l.state <;> decide
  | _ =>
    simp only [Operation.name, Operation.allowed] at hr
    simp only [Operation.run, Operation.name, LinkSocket.open, LinkSocket.bind, start, stop, move,
      worker?, hr, run_pure]

/-! ## What a link holds -/

/-- What a link holds in each of its states. -/
def Coherent (l : LinkSocket) : Prop :=
  match l.state with
  | .undefined | .closed => l.transport = .unopened
  | .ready => l.identity.isSome = true ∧ l.transport.IsFor l.config false
  | .bound | .running | .paused => l.identity.isSome = true ∧ l.transport.IsFor l.config true
  | .failed => True

theorem Coherent.new (config : LinkConfig) : Coherent (new config) := rfl

/-- The end of a setup step. -/
theorem settle_run (l : LinkSocket) (operation : String) (next : LinkState)
    (outcome : Except LinkError Unit) (h : Host) :
    ((l.settle operation next outcome).run h).1 =
      (outcome, { l with state := if outcome.isOk then next else .failed }) := by
  cases outcome <;> rfl

/-! ## Opening -/

theorem openTransport_isFor {config : LinkConfig} {transport : Transport} {h' : Host}
    (hr : (openTransport config).run h = (.ok transport, h')) : transport.IsFor config false := by
  rw [openTransport, run_bind] at hr
  split at hr
  · cases (Prod.mk.inj hr).1
  · cases hf : config.ringFrames with
    | none =>
      simp only [hf, Option.isSome_none, Bool.false_eq_true, if_false, run_pure] at hr
      cases (Prod.mk.inj hr).1
      exact hf
    | some frames =>
      simp only [hf, Option.isSome_some, if_true, run_bind] at hr
      split at hr
      · cases (Prod.mk.inj hr).1
      · cases (Prod.mk.inj hr).1
        exact ⟨by rw [hf]; rfl, rfl, rfl⟩

theorem openTransport_fails (config : LinkConfig) : FailsInSetup (openTransport config) := by
  refine .bind fun _ outcome ho => ?_
  cases outcome with
  | error e => exact .error (PacketSocket.open?_fails _ _ ho)
  | ok first =>
    by_cases hf : config.ringFrames.isSome = true
    · simp only [hf, if_true]
      refine .bind fun _ outcome ho => ?_
      cases outcome with
      | error e => exact .bind fun _ _ _ => .error (PacketSocket.open?_fails _ _ ho)
      | ok second => exact .ok _
    · simp only [hf]
      exact .ok _

/-- Opening gives a link its interface and its descriptors, or leaves it as it is. -/
theorem openDescriptors_run (l : LinkSocket) (resolver : Resolver) (h : Host) :
    (∃ e, ((l.openDescriptors resolver).run h).1 = (.error e, l) ∧
        (e.IsSetup ∨ resolver = .failing e)) ∨
      ∃ transport interface, ((l.openDescriptors resolver).run h).1 =
        (.ok (), { l with transport, identity := some interface }) ∧
          transport.IsFor l.config false := by
  rw [openDescriptors, run_bind]
  split
  · exact .inl ⟨_, rfl, Resolver.resolve_fails ‹_›⟩
  · rw [run_bind]
    generalize ht : (openTransport l.config).run _ = opened
    obtain ⟨outcome, h'⟩ := opened
    cases outcome with
    | error e => exact .inl ⟨e, rfl, .inl (openTransport_fails _ _ _ (congrArg Prod.fst ht))⟩
    | ok transport => exact .inr ⟨transport, _, rfl, openTransport_isFor ht⟩

/-! ## Binding -/

theorem bindSocket_fails (s : PacketSocket) (interfaceIndex protocol : Nat) :
    FailsInSetup (bindSocket s interfaceIndex protocol) := by
  refine .bind fun _ outcome _ => ?_
  cases outcome with
  | error e => exact .error (LinkError.isSetup_setup ..)
  | ok => exact .ok _

/-- What follows after a socket is bound may fail as setup steps do. -/
theorem bindSocket_then_fails (s : PacketSocket) (interfaceIndex protocol : Nat)
    {next : Sys (Except LinkError Unit)} (hn : FailsInSetup next) :
    FailsInSetup (do
      match ← bindSocket s interfaceIndex protocol with
      | .error e => pure (.error e)
      | .ok () => next) := by
  refine .bind fun _ outcome ho => ?_
  match outcome with
  | .error e => exact .error (bindSocket_fails _ _ _ _ _ ho)
  | .ok () => exact hn

theorem bindReceiver_fails (s : PacketSocket) (interfaceIndex : Nat) :
    FailsInSetup (bindReceiver s interfaceIndex) := by
  refine bindSocket_then_fails _ _ _ (.bind fun _ outcome _ => ?_)
  match outcome with
  | .error e => exact .error (LinkError.isSetup_setup ..)
  | .ok () => exact .ok _

theorem bindDirect_fails (config : LinkConfig) (interfaceIndex : Nat) (s : PacketSocket) :
    FailsInSetup (bindDirect config interfaceIndex s) := by
  unfold bindDirect
  split
  · exact bindSocket_fails _ _ _
  · exact bindReceiver_fails _ _

theorem bindPair_fails (config : LinkConfig) (interfaceIndex : Nat) (rx tx : PacketSocket) :
    FailsInSetup (bindPair config interfaceIndex rx tx) := by
  unfold bindPair
  split
  · exact bindSocket_then_fails _ _ _ (bindSocket_fails _ _ _)
  · exact bindSocket_then_fails _ _ _ (bindReceiver_fails _ _)

theorem bindRings_run {config : LinkConfig} (hf : config.ringFrames.isSome = true)
    (interfaceIndex : Nat) (rx tx : PacketSocket) (h : Host) :
    ∃ outcome transport, ((bindRings config interfaceIndex rx tx).run h).1 = (outcome, transport) ∧
      (outcome = .ok () → transport.IsFor config true) ∧
        ∀ e, outcome = .error e → e.IsSetup := by
  rw [bindRings, run_bind]
  split
  · rename_i hr
    refine ⟨_, _, rfl, nofun, fun e he => ?_⟩
    cases he
    exact Ring.open?_fails _ _ _ _ _ hr
  · rw [run_bind]
    split
    · rename_i hr
      refine ⟨_, _, rfl, nofun, fun e he => ?_⟩
      cases he
      exact Ring.open?_fails _ _ _ _ _ hr
    · exact ⟨_, _, rfl, fun _ => ⟨hf, rfl, rfl⟩, fun e he => bindPair_fails _ _ _ _ _ _ he⟩

/-- Binding a link that is ready maps all its rings, or fails as setup steps do. -/
theorem bindDescriptors_run (hc : l.Coherent) (hs : l.state = .ready) (h : Host) :
    ∃ outcome transport, (l.bindDescriptors.run h).1 = (outcome, { l with transport }) ∧
      (outcome = .ok () → transport.IsFor l.config true) ∧
        ∀ e, outcome = .error e → e.IsSetup := by
  unfold Coherent at hc
  rw [hs] at hc
  obtain ⟨hidentity, hfor⟩ := hc
  unfold bindDescriptors
  obtain ⟨interface, hi⟩ := Option.isSome_iff_exists.mp hidentity
  cases ht : l.transport with
  | unopened =>
    rw [ht] at hfor
    exact hfor.elim
  | direct s =>
    rw [ht] at hfor
    simp only [hi, run_bind, run_pure]
    exact ⟨_, .direct s, by rw [← hi, ← ht], fun _ => hfor,
      fun e he => bindDirect_fails _ _ _ _ _ he⟩
  | rings rxRing txRing rx tx =>
    rw [ht] at hfor
    simp only [hi, run_bind, run_pure]
    obtain ⟨outcome, transport, hr, hok, he⟩ := bindRings_run hfor.1 interface.index rx tx h
    rw [hr]
    exact ⟨outcome, transport, rfl, hok, he⟩

/-! ## Working -/

/-- A running link has a worker. -/
theorem worker?_eq_ok (hc : l.Coherent) (hs : l.state = .running) (traffic : TrafficOptions) :
    ∃ worker, l.worker? traffic = .ok worker := by
  have hr : l.refusal? "watch" [.running] = none := refusal?_of_mem (by rw [hs]; decide)
  unfold Coherent at hc
  rw [hs] at hc
  obtain ⟨hidentity, hfor⟩ := hc
  obtain ⟨interface, hi⟩ := Option.isSome_iff_exists.mp hidentity
  have hchannel : ∃ channel, l.channel? = some channel := by
    unfold channel?
    cases ht : l.transport with
    | unopened =>
      rw [ht] at hfor
      exact hfor.elim
    | direct s => exact ⟨.socket s, rfl⟩
    | rings rxRing txRing rx tx =>
      rw [ht] at hfor
      obtain ⟨-, hrx, htx⟩ := hfor
      obtain ⟨r, rfl⟩ := Option.isSome_iff_exists.mp hrx
      obtain ⟨r', rfl⟩ := Option.isSome_iff_exists.mp htx
      cases l.config.role with
      | receiver => exact ⟨.ring r, rfl⟩
      | transmitter => exact ⟨.ring r', rfl⟩
  obtain ⟨channel, hch⟩ := hchannel
  simp only [worker?, hr, hi, hch]
  exact ⟨_, rfl⟩

/-- Putting a worker back changes nothing but a ring. -/
theorem putBack_eq (l : LinkSocket) (w : Worker) :
    ∃ transport, l.putBack w = { l with transport } ∧
      ∀ mapped, l.transport.IsFor l.config mapped → mapped = true →
        transport.IsFor l.config mapped := by
  unfold putBack
  split
  · rename_i ht hw
    refine ⟨_, rfl, fun mapped hfor hm => ?_⟩
    rw [ht] at hfor
    exact ⟨hfor.1, hm.symm, hfor.2.2⟩
  · rename_i ht hw
    refine ⟨_, rfl, fun mapped hfor hm => ?_⟩
    rw [ht] at hfor
    exact ⟨hfor.1, hfor.2.1, hm.symm⟩
  · exact ⟨_, rfl, fun _ hfor _ => hfor⟩

/-! ## Closing -/

theorem closeSocket_failures {s : PacketSocket} {e : LinkError}
    (he : e ∈ ((closeSocket s).run h).1) : ∃ cause, e = .resource "close" cause := by
  rw [closeSocket, run_bind] at he
  split at he
  · cases he
  · exact ⟨_, List.mem_singleton.mp he⟩

theorem closeRing_failures {ring : Option Ring} {e : LinkError}
    (he : e ∈ ((closeRing ring).run h).1) : ∃ cause, e = .resource "munmap" cause := by
  cases ring with
  | none => cases he
  | some r =>
    rw [closeRing, run_bind, Ring.close, run_bind] at he
    split at he
    · cases he
    · exact ⟨_, List.mem_singleton.mp he⟩

theorem unmappedFailure_isLoss {rxRing txRing : Option Ring} {e : LinkError}
    (he : e ∈ unmappedFailure rxRing txRing) : e.IsLoss := by
  unfold unmappedFailure at he
  split at he
  · cases he
  all_goals
    cases List.mem_singleton.mp he
    trivial

/-- A step of closing fails with a lost resource. If all rings were mapped, it is no complaint about
a ring. -/
theorem closeTransport_failures {e : LinkError} (he : e ∈ (l.closeTransport.run h).1) :
    e.IsLoss ∧
      (l.transport.IsFor l.config true → ∃ operation cause, e = .resource operation cause) := by
  have hresource {operation : String} (hx : ∃ cause, e = .resource operation cause) :
      e.IsLoss ∧ (l.transport.IsFor l.config true →
        ∃ operation cause, e = .resource operation cause) := by
    obtain ⟨cause, rfl⟩ := hx
    exact ⟨trivial, fun _ => ⟨_, _, rfl⟩⟩
  unfold closeTransport at he
  split at he
  · rename_i ht
    rw [run_pure] at he
    split at he
    · cases List.mem_singleton.mp he
      exact ⟨trivial, fun hfor => (ht ▸ hfor : Transport.IsFor l.config true .unopened).elim⟩
    · cases he
  · exact hresource (closeSocket_failures he)
  · rename_i rxRing txRing rx tx ht
    simp only [run_bind, run_pure, List.mem_append] at he
    rcases he with (((he | he) | he) | he) | he
    · exact hresource (closeRing_failures he)
    · exact hresource (closeRing_failures he)
    · refine ⟨unmappedFailure_isLoss he, fun hfor => ?_⟩
      rw [ht] at hfor
      obtain ⟨-, hrx, htx⟩ := hfor
      obtain ⟨r, rfl⟩ := Option.isSome_iff_exists.mp hrx
      obtain ⟨r', rfl⟩ := Option.isSome_iff_exists.mp htx
      cases he
    · exact hresource (closeSocket_failures he)
    · exact hresource (closeSocket_failures he)

/-- A disposal reports no missing resource but those of its steps. -/
theorem mem_of_reports {failed : List LinkError} {e : LinkError} {text : String}
    (hl : ∀ e ∈ failed, e.IsLoss) (he : teardownOutcome failed = .error e)
    (hr : e.Reports (.resourceUnavailable text)) : .resourceUnavailable text ∈ failed := by
  unfold teardownOutcome at he
  split at he
  · cases he
  · cases he
    rcases hr with rfl | ⟨failures, rfl, -⟩
    · exact List.mem_singleton_self _
    · exact (hl _ (List.mem_singleton_self _)).elim
  · cases he
    rcases hr with hr | ⟨failures, hf, hm⟩
    · cases hr
    · cases hf
      exact hm

theorem teardownOutcome_ne_invalidState {failed : List LinkError} (hl : ∀ e ∈ failed, e.IsLoss)
    (operation : String) (state : LinkState) :
    teardownOutcome failed ≠ .error (.invalidState operation state) := by
  intro he
  unfold teardownOutcome at he
  split at he
  · cases he
  · cases he
    exact hl _ (List.mem_singleton_self _)
  · cases he

theorem close_run (hs : l.state ≠ .closed) (h : Host) :
    (l.close.run h).1 = (teardownOutcome (l.closeTransport.run h).1,
      { l with transport := .unopened, state := .closed }) := by
  simp only [close, hs, if_false, run_bind, run_pure]

/-- Closing leaves nothing behind, and a link that is closed stays as it is. -/
theorem close_closed (hc : l.Coherent) (h : Host) :
    (l.close.run h).1.2 = { l with transport := .unopened, state := .closed } := by
  by_cases hs : l.state = .closed
  · simp only [close, hs, if_true, run_pure]
    unfold Coherent at hc
    rw [hs] at hc
    rw [← hc, ← hs]
  · rw [close_run hs]

/-! ## Every operation -/

/-- What an operation that is allowed may fail with. -/
def Operation.MayFail : Operation → LinkError → Prop
  | .open resolver, e => e.IsSetup ∨ resolver = .failing e
  | .bind, e => e.IsSetup
  | .close, e => ∀ operation state, e ≠ .invalidState operation state
  | .watch _ refusal _, e =>
    ∃ cause, refusal = some cause ∧ e = .resource Reactor.registration cause
  | .start, _ | .stop, _ => False

/-- What an operation makes of a coherent link in a state that allows it. -/
structure Done (l : LinkSocket) (o : Operation) (answer : Except LinkError Unit)
    (l' : LinkSocket) : Prop where
  move : Move o answer.isOk l.state l'.state
  config : l'.config = l.config
  coherent : l'.Coherent
  blame : ∀ e, answer = .error e → o.MayFail e

theorem open_done (hs : l.state = .undefined) (resolver : Resolver) (h : Host) :
    Done l (.open resolver) ((l.open resolver).run h).1.1 ((l.open resolver).run h).1.2 := by
  have hr : l.refusal? "open" [.undefined] = none := refusal?_of_mem (by rw [hs]; decide)
  simp only [LinkSocket.open, hr, run_bind]
  rcases openDescriptors_run l resolver h with ⟨e, he, hb⟩ | ⟨transport, interface, ht, hfor⟩
  · rw [he, settle_run]
    refine ⟨?_, rfl, trivial, fun e' he' => ?_⟩
    · rw [hs]
      exact .openFailed resolver
    · cases he'
      exact hb
  · rw [ht, settle_run]
    refine ⟨?_, rfl, ⟨rfl, hfor⟩, nofun⟩
    rw [hs]
    exact .opened resolver

theorem bind_done (hc : l.Coherent) (hs : l.state = .ready) (h : Host) :
    Done l .bind (l.bind.run h).1.1 (l.bind.run h).1.2 := by
  have hr : l.refusal? "bind" [.ready] = none := refusal?_of_mem (by rw [hs]; decide)
  obtain ⟨outcome, transport, hb, hok, he⟩ := bindDescriptors_run hc hs h
  simp only [LinkSocket.bind, hr, run_bind, hb, settle_run]
  unfold Coherent at hc
  rw [hs] at hc
  match outcome, hok, he with
  | .ok (), hok, _ =>
    refine ⟨?_, rfl, ⟨hc.1, hok rfl⟩, nofun⟩
    rw [hs]
    exact .bound
  | .error e, _, he =>
    refine ⟨?_, rfl, trivial, fun e' he' => he e' he'⟩
    rw [hs]
    exact .bindFailed

/-- Starting and stopping move a link that is bound. -/
theorem move_run {allowed : List LinkState} (hm : l.state ∈ allowed) (operation : String)
    (next : LinkState) (message : String) (h : Host) :
    ((l.move operation allowed next message).run h).1 = (.ok (), { l with state := next }) := by
  simp only [LinkSocket.move, refusal?_of_mem hm, run_bind, run_pure]

theorem start_done (hc : l.Coherent) (hm : l.state ∈ Operation.start.allowed) (h : Host) :
    Done l .start (l.start.run h).1.1 (l.start.run h).1.2 := by
  have hm : l.state ∈ [.bound, .paused] := hm
  rw [start, move_run hm]
  unfold Coherent at hc
  simp only [List.mem_cons, List.not_mem_nil, or_false] at hm
  rcases hm with hs | hs
  · rw [hs] at hc
    exact ⟨hs ▸ .started, rfl, hc, nofun⟩
  · rw [hs] at hc
    exact ⟨hs ▸ .resumed, rfl, hc, nofun⟩

theorem stop_done (hc : l.Coherent) (hs : l.state = .running) (h : Host) :
    Done l .stop (l.stop.run h).1.1 (l.stop.run h).1.2 := by
  rw [stop, move_run (by rw [hs]; decide)]
  unfold Coherent at hc
  rw [hs] at hc
  exact ⟨hs ▸ .stopped, rfl, hc, nofun⟩

/-- A running link of which the descriptor is refused stays as it is. Otherwise its worker has its
turns. -/
theorem watch_done (hc : l.Coherent) (hs : l.state = .running) (traffic : TrafficOptions)
    (refusal : Option Errno) (turns : Nat) (h : Host) : Done l (.watch traffic refusal turns)
      (((Operation.watch traffic refusal turns).run l).run h).1.1
      (((Operation.watch traffic refusal turns).run l).run h).1.2 := by
  obtain ⟨worker, hw⟩ := worker?_eq_ok hc hs traffic
  cases refusal with
  | some cause =>
    simp only [Operation.run, hw, run_pure]
    refine ⟨?_, rfl, hc, fun e he => ⟨cause, rfl, (Except.error.inj he).symm⟩⟩
    rw [hs]
    exact .unwatched traffic cause turns
  | none =>
    simp only [Operation.run, hw, run_bind, run_pure]
    obtain ⟨transport, hb, hfor⟩ := putBack_eq l ((worker.turns turns).run h).1
    rw [hb]
    unfold Coherent at hc
    rw [hs] at hc
    refine ⟨?_, rfl, ?_, nofun⟩
    · rw [hs]
      exact .watched traffic turns
    · unfold Coherent
      simp only [hs]
      exact ⟨hc.1, hfor true hc.2 rfl⟩

theorem close_done (hc : l.Coherent) (h : Host) :
    Done l .close (l.close.run h).1.1 (l.close.run h).1.2 := by
  rw [close_closed hc h]
  refine ⟨.closed _ _, rfl, rfl, fun e he operation state hx => ?_⟩
  by_cases hs : l.state = .closed
  · simp only [close, hs, if_true, run_pure] at he
    cases he
  · rw [close_run hs, hx] at he
    exact teardownOutcome_ne_invalidState (fun _ he => (closeTransport_failures he).1) _ _ he

/-- Every operation that is allowed moves a coherent link along an arrow and leaves it coherent. -/
theorem Coherent.run (hc : l.Coherent) (hm : l.state ∈ o.allowed) (h : Host) :
    Done l o ((o.run l).run h).1.1 ((o.run l).run h).1.2 := by
  cases o with
  | «open» resolver => exact open_done (List.mem_singleton.mp hm) resolver h
  | bind => exact bind_done hc (List.mem_singleton.mp hm) h
  | start => exact start_done hc hm h
  | stop => exact stop_done hc (List.mem_singleton.mp hm) h
  | watch traffic refusal turns =>
    exact watch_done hc (List.mem_singleton.mp hm) traffic refusal turns h
  | close => exact close_done hc h

/-- A link after some operations, each on a host as it is at that time. -/
def lived (config : LinkConfig) (past : List (Operation × Host)) : LinkSocket :=
  past.foldl (fun l turn => ((turn.1.run l).run turn.2).1.2) (new config)

theorem lived_append (config : LinkConfig) (past : List (Operation × Host)) (o : Operation)
    (h : Host) :
    lived config (past ++ [(o, h)]) = ((o.run (lived config past)).run h).1.2 := by
  simp only [lived, List.foldl_append, List.foldl_cons, List.foldl_nil]

theorem lived_coherent (config : LinkConfig) (past : List (Operation × Host)) :
    (lived config past).Coherent ∧ (lived config past).config = config := by
  induction past using List.reverseRecOn with
  | nil => exact ⟨.new config, rfl⟩
  | append_singleton past turn ih =>
    obtain ⟨hc, hconfig⟩ := ih
    obtain ⟨o, h⟩ := turn
    rw [lived_append]
    by_cases hm : (lived config past).state ∈ o.allowed
    · have hd := hc.run hm h
      exact ⟨hd.coherent, hd.config.trans hconfig⟩
    · rw [run_refused hm]
      exact ⟨hc, hconfig⟩

/-! ## What follows -/

/-- The descriptors of a link are open. -/
def IsSetUp (l : LinkSocket) : Prop := l.state ∈ [.ready, .bound, .running, .paused]

/-- The descriptors of a link are bound. -/
def IsBound (l : LinkSocket) : Prop := l.state ∈ [.bound, .running, .paused]

/-- What holds of a link at any time of its life. -/
structure Lawful (config : LinkConfig) (l : LinkSocket) : Prop where
  config_eq : l.config = config
  unopened : l.state = .undefined ∨ l.state = .closed → l.transport = .unopened
  identity : l.IsSetUp → l.identity.isSome = true
  direct_iff : l.IsSetUp → ((∃ s, l.transport = .direct s) ↔ config.ringFrames = none)
  rings_iff : l.IsSetUp → ((∃ rxRing txRing rx tx, l.transport = .rings rxRing txRing rx tx) ↔
    config.ringFrames.isSome = true)
  unmapped : l.state = .ready → ∀ rxRing txRing rx tx, l.transport = .rings rxRing txRing rx tx →
    rxRing = none ∧ txRing = none
  mapped : l.IsBound → ∀ rxRing txRing rx tx, l.transport = .rings rxRing txRing rx tx →
    rxRing.isSome = true ∧ txRing.isSome = true
  /-- An operation that is not allowed is refused; neither the link nor the host changes. -/
  refused : ∀ (o : Operation) (h : Host), l.state ∉ o.allowed →
    (o.run l).run h = ((.error (.invalidState o.name l.state), l), h)
  /-- An operation that is allowed moves the state along an arrow. -/
  moved : ∀ (o : Operation) (h : Host), l.state ∈ o.allowed →
    Move o ((o.run l).run h).1.1.isOk l.state ((o.run l).run h).1.2.state
  /-- A link that has failed or is closed can only be closed. -/
  at_end : l.state = .failed ∨ l.state = .closed → ∀ o : Operation, l.state ∈ o.allowed → o = .close
  /-- Only a refusal, or a resolver that says so, is about the state. -/
  invalid : ∀ (o : Operation) (h : Host) (operation : String) (state : LinkState),
    ((o.run l).run h).1.1 = .error (.invalidState operation state) →
      l.state ∉ o.allowed ∨ o = .open (.failing (.invalidState operation state))
  bind_available : ∀ (h : Host) (text : String),
    (l.bind.run h).1.1 ≠ .error (.resourceUnavailable text)
  worker_available : ∀ (traffic : TrafficOptions) (text : String),
    l.worker? traffic ≠ .error (.resourceUnavailable text)
  close_mapped : l.IsBound → ∀ (h : Host) (e : LinkError) (text : String),
    (l.close.run h).1.1 = .error e → ¬ e.Reports (.resourceUnavailable text)

theorem Coherent.identity_isSome (hc : l.Coherent) (hs : l.IsSetUp) :
    l.identity.isSome = true := by
  unfold Coherent at hc
  unfold IsSetUp at hs
  cases hl : l.state with
  | ready | bound | running | paused =>
    rw [hl] at hc
    exact hc.1
  | _ =>
    rw [hl] at hs
    exact absurd hs (by decide)

/-- A link that is set up has the descriptors of its configuration. -/
theorem Coherent.isFor (hc : l.Coherent) (hs : l.IsSetUp) :
    l.transport.IsFor l.config (decide (l.state ≠ .ready)) := by
  unfold Coherent at hc
  unfold IsSetUp at hs
  cases hl : l.state with
  | ready | bound | running | paused =>
    rw [hl] at hc
    exact hc.2
  | _ =>
    rw [hl] at hs
    exact absurd hs (by decide)

theorem IsBound.isSetUp (hs : l.IsBound) : l.IsSetUp := List.mem_cons_of_mem _ hs

theorem IsBound.ne_ready (hs : l.IsBound) : l.state ≠ .ready := by
  intro hl
  unfold IsBound at hs
  rw [hl] at hs
  exact absurd hs (by decide)

/-- A bound link has the descriptors of its configuration, with all rings mapped. -/
theorem Coherent.isFor_bound (hc : l.Coherent) (hs : l.IsBound) :
    l.transport.IsFor l.config true := by
  have hfor := hc.isFor hs.isSetUp
  rwa [decide_eq_true hs.ne_ready] at hfor

/-- A link that is not bound yet has no ring. -/
theorem Coherent.unmapped (hc : l.Coherent) (hs : l.state = .ready) {rxRing txRing : Option Ring}
    {rx tx : PacketSocket} (ht : l.transport = .rings rxRing txRing rx tx) :
    rxRing = none ∧ txRing = none := by
  have hfor := hc.isFor (by unfold IsSetUp; rw [hs]; decide)
  rw [ht, hs] at hfor
  obtain ⟨-, hrx, htx⟩ := hfor
  exact ⟨Option.not_isSome_iff_eq_none.mp (by simp [hrx]),
    Option.not_isSome_iff_eq_none.mp (by simp [htx])⟩

theorem Coherent.unopened (hc : l.Coherent) (hs : l.state = .undefined ∨ l.state = .closed) :
    l.transport = .unopened := by
  unfold Coherent at hc
  rcases hs with hs | hs
  all_goals
    rw [hs] at hc
    exact hc

theorem direct_iff_of_isFor {config : LinkConfig} {mapped : Bool} {transport : Transport}
    (hfor : transport.IsFor config mapped) :
    (∃ s, transport = .direct s) ↔ config.ringFrames = none := by
  cases transport with
  | unopened => exact hfor.elim
  | direct s => exact iff_of_true ⟨s, rfl⟩ hfor
  | rings rxRing txRing rx tx =>
    have hsome := hfor.1
    refine iff_of_false (fun ⟨s, hs⟩ => by cases hs) fun hn => ?_
    rw [hn] at hsome
    cases hsome

theorem rings_iff_of_isFor {config : LinkConfig} {mapped : Bool} {transport : Transport}
    (hfor : transport.IsFor config mapped) :
    (∃ rxRing txRing rx tx, transport = .rings rxRing txRing rx tx) ↔
      config.ringFrames.isSome = true := by
  cases transport with
  | unopened => exact hfor.elim
  | direct s =>
    have hnone : config.ringFrames = none := hfor
    refine iff_of_false (fun ⟨_, _, _, _, hs⟩ => by cases hs) fun hn => ?_
    rw [hnone] at hn
    cases hn
  | rings rxRing txRing rx tx => exact iff_of_true ⟨_, _, _, _, rfl⟩ hfor.1

theorem Coherent.invalid (hc : l.Coherent) (o : Operation) (h : Host) (operation : String)
    (state : LinkState) (he : ((o.run l).run h).1.1 = .error (.invalidState operation state)) :
    l.state ∉ o.allowed ∨ o = .open (.failing (.invalidState operation state)) := by
  by_cases hm : l.state ∈ o.allowed
  · have hb := (hc.run hm h).blame _ he
    cases o with
    | «open» resolver =>
      rcases hb with hb | rfl
      · exact hb.elim
      · exact .inr rfl
    | bind => exact hb.elim
    | start | stop => exact hb.elim
    | watch =>
      obtain ⟨cause, -, hcause⟩ := hb
      cases hcause
    | close => exact absurd rfl (hb operation state)
  · exact .inl hm

/-- A link that binds lacks nothing that should be there. -/
theorem Coherent.bind_available (hc : l.Coherent) (h : Host) (text : String) :
    (l.bind.run h).1.1 ≠ .error (.resourceUnavailable text) := by
  intro he
  by_cases hs : l.state = .ready
  · exact (bind_done hc hs h).blame _ he
  · have hr := run_refused (o := .bind) (fun hm => hs (List.mem_singleton.mp hm)) h
    rw [show l.bind.run h = _ from hr] at he
    cases he

/-- A link that makes a worker lacks nothing that should be there. -/
theorem Coherent.worker_available (hc : l.Coherent) (traffic : TrafficOptions) (text : String) :
    l.worker? traffic ≠ .error (.resourceUnavailable text) := by
  intro he
  by_cases hs : l.state = .running
  · obtain ⟨worker, hw⟩ := worker?_eq_ok hc hs traffic
    rw [hw] at he
    cases he
  · have hr : l.refusal? "watch" [.running] = some (.invalidState "watch" l.state) :=
      refusal?_of_not_mem fun hm => hs (List.mem_singleton.mp hm)
    simp only [worker?, hr] at he
    cases he

/-- Closing a link that was bound misses no ring. -/
theorem Coherent.close_mapped (hc : l.Coherent) (hs : l.IsBound) (h : Host) {e : LinkError}
    (he : (l.close.run h).1.1 = .error e) (text : String) :
    ¬ e.Reports (.resourceUnavailable text) := by
  intro hr
  have hne : l.state ≠ .closed := by
    intro hl
    unfold IsBound at hs
    rw [hl] at hs
    exact absurd hs (by decide)
  rw [close_run hne] at he
  have hm := mem_of_reports (fun _ he => (closeTransport_failures he).1) he hr
  obtain ⟨operation, cause, hx⟩ := (closeTransport_failures hm).2 (hc.isFor_bound hs)
  cases hx

theorem Coherent.lawful (hc : l.Coherent) : Lawful l.config l where
  config_eq := rfl
  unopened := hc.unopened
  identity := hc.identity_isSome
  direct_iff hs := direct_iff_of_isFor (hc.isFor hs)
  rings_iff hs := rings_iff_of_isFor (hc.isFor hs)
  unmapped hs _ _ _ _ ht := hc.unmapped hs ht
  mapped hs rxRing txRing rx tx ht := by
    have hfor := hc.isFor_bound hs
    rw [ht] at hfor
    exact hfor.2
  refused o h hm := run_refused hm h
  moved o h hm := (hc.run hm h).move
  at_end hs o hm := by
    cases o with
    | close => rfl
    | _ => rcases hs with hs | hs <;> simp [Operation.allowed, hs] at hm
  invalid := hc.invalid
  bind_available := hc.bind_available
  worker_available := hc.worker_available
  close_mapped hs h e text he := hc.close_mapped hs h he text

/-- Whatever is asked of a link on whatever host, it lives by its laws. -/
theorem lifecycle (config : LinkConfig) (past : List (Operation × Host)) :
    Lawful config (lived config past) := by
  obtain ⟨hc, hconfig⟩ := lived_coherent config past
  have hl := hc.lawful
  rwa [hconfig] at hl

end LinkSocket

end PacketLink
