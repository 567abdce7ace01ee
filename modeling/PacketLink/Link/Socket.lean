import PacketLink.Link.Resolver
import PacketLink.Traffic.Worker

/-!
# Link sockets

A link socket is bound to one interface and moves frames one way, through one packet socket or
through a pair of packet sockets with a ring each.

* `LinkSocket.open`, `bind`, `start`, `stop`: the life of a link, each allowed in certain states
  only. A failure while opening or binding leaves the link `failed`.
* `LinkSocket.worker?`: what moves the frames of a running link.
* `LinkSocket.close`: gives everything back, rings before sockets, whatever fails on the way.
* `LinkSocket.discard`: closes a link that nobody closed, and says so in the log.
-/

namespace PacketLink

/-- What a link is bound to. -/
structure LinkConfig where
  role : Role
  interface : String
  kind : FrameKind
  /-- The protocol that a transmitter binds to and sends with. -/
  sap : UInt16
  /-- The number of slots of the rings, if frames pass through rings. -/
  ringFrames : Option Nat

/-- How frames are sent. -/
structure TrafficOptions where
  /-- The number of zero bytes in a frame. -/
  payloadLength : Nat
  /-- The pause after a frame, in milliseconds. -/
  delay : Nat

/-- The descriptors of a link. -/
inductive Transport where
  | unopened
  | direct (socket : PacketSocket)
  | rings (rxRing txRing : Option Ring) (rx tx : PacketSocket)

/-- A link bound to one interface. -/
structure LinkSocket where
  config : LinkConfig
  state : LinkState
  /-- The interface, once it is known. -/
  identity : Option Interface
  transport : Transport

namespace LinkSocket

/-- A link of which nothing is open yet. -/
def new (config : LinkConfig) : LinkSocket := ⟨config, .undefined, none, .unopened⟩

/-- Whether frames pass through rings. -/
def usesRing (l : LinkSocket) : Bool := l.config.ringFrames.isSome

/-- The refusal of an operation in a state where it is not allowed. -/
def refusal? (l : LinkSocket) (operation : String) (allowed : List LinkState) :
    Option LinkError :=
  if l.state ∈ allowed then none else some (.invalidState operation l.state)

/-- The field of the log that tells the role. -/
def roleField (l : LinkSocket) : String × String := ("role", l.config.role.label)

/-- Ends a setup step: on success the link is in the next state, otherwise it has failed. -/
def settle (l : LinkSocket) (operation : String) (next : LinkState)
    (outcome : Except LinkError Unit) : Sys (Except LinkError Unit × LinkSocket) := do
  match outcome with
  | .ok () => pure (.ok (), { l with state := next })
  | .error e =>
    Host.report (Log.warn "link socket setup failed"
      [Log.text "op" operation, ("error", e.message)])
    pure (.error e, { l with state := .failed })

/-! ## Opening -/

/-- Opens the descriptors that the configuration asks for. -/
def openTransport (config : LinkConfig) : Sys (Except LinkError Transport) := do
  match ← PacketSocket.open? with
  | .error e => pure (.error e)
  | .ok first =>
    if config.ringFrames.isSome then
      match ← PacketSocket.open? with
      | .error e =>
        first.discard
        pure (.error e)
      | .ok second => pure (.ok (.rings none none first second))
    else pure (.ok (.direct first))

/-- The report of an opened link. -/
def openedReport (l : LinkSocket) (i : Interface) : Log.Entry :=
  Log.info "opened link socket"
    [l.roleField, ("interface", i.name), Log.number "ifindex" i.index, ("mac", i.mac.toText),
      ("ring", toString l.usesRing)]

/-- Finds the interface and opens the descriptors. -/
def openDescriptors (l : LinkSocket) (resolver : Resolver) :
    Sys (Except LinkError Unit × LinkSocket) := do
  match ← resolver.resolve l.config.interface with
  | .error e => pure (.error e, l)
  | .ok interface =>
    match ← openTransport l.config with
    | .error e => pure (.error e, l)
    | .ok transport =>
      Host.report (l.openedReport interface)
      pure (.ok (), { l with transport, identity := some interface })

/-- Opens the link. -/
def «open» (l : LinkSocket) (resolver : Resolver) :
    Sys (Except LinkError Unit × LinkSocket) := do
  match l.refusal? "open" [.undefined] with
  | some e => pure (.error e, l)
  | none =>
    let (outcome, l) ← l.openDescriptors resolver
    l.settle "open" .ready outcome

/-! ## Binding -/

/-- Binds one packet socket. -/
def bindSocket (s : PacketSocket) (interfaceIndex protocol : Nat) :
    Sys (Except LinkError Unit) := do
  match ← s.bind interfaceIndex protocol with
  | .ok () => pure (.ok ())
  | .error e => pure (.error (.setup "bind" e))

/-- Binds a packet socket to every protocol and makes it take frames to every address. -/
def bindReceiver (s : PacketSocket) (interfaceIndex : Nat) : Sys (Except LinkError Unit) := do
  match ← bindSocket s interfaceIndex LinkAddress.allProtocols with
  | .error e => pure (.error e)
  | .ok () =>
    match ← s.joinPromiscuous interfaceIndex with
    | .ok () => pure (.ok ())
    | .error e => pure (.error (.setup "PACKET_ADD_MEMBERSHIP" e))

/-- Binds the packet socket of a link without rings. -/
def bindDirect (config : LinkConfig) (interfaceIndex : Nat) (s : PacketSocket) :
    Sys (Except LinkError Unit) :=
  match config.role with
  | .transmitter => bindSocket s interfaceIndex config.sap.toNat
  | .receiver => bindReceiver s interfaceIndex

/-- Binds the packet sockets of a link with rings. The one that the link does not use is bound to
no protocol. -/
def bindPair (config : LinkConfig) (interfaceIndex : Nat) (rx tx : PacketSocket) :
    Sys (Except LinkError Unit) := do
  match config.role with
  | .transmitter =>
    match ← bindSocket tx interfaceIndex config.sap.toNat with
    | .error e => pure (.error e)
    | .ok () => bindSocket rx interfaceIndex 0
  | .receiver =>
    match ← bindSocket tx interfaceIndex 0 with
    | .error e => pure (.error e)
    | .ok () => bindReceiver rx interfaceIndex

/-- Maps the rings and binds the sockets of a link with rings. -/
def bindRings (config : LinkConfig) (interfaceIndex : Nat) (rx tx : PacketSocket) :
    Sys (Except LinkError Unit × Transport) := do
  let frames := config.ringFrames.getD Ring.defaultFrames
  match ← Ring.open? rx .receive frames with
  | .error e => pure (.error e, .rings none none rx tx)
  | .ok rxRing =>
    match ← Ring.open? tx .send frames with
    | .error e => pure (.error e, .rings (some rxRing) none rx tx)
    | .ok txRing =>
      let outcome ← bindPair config interfaceIndex rx tx
      pure (outcome, .rings (some rxRing) (some txRing) rx tx)

/-- Binds whatever descriptors the link has. -/
def bindDescriptors (l : LinkSocket) : Sys (Except LinkError Unit × LinkSocket) := do
  match l.identity with
  | none => pure (.error (.resourceUnavailable "interface not resolved"), l)
  | some interface =>
    match l.transport with
    | .unopened => pure (.error (.resourceUnavailable "socket not opened"), l)
    | .direct s => pure (← bindDirect l.config interface.index s, l)
    | .rings _ _ rx tx =>
      let (outcome, transport) ← bindRings l.config interface.index rx tx
      pure (outcome, { l with transport })

/-- Binds the link to its interface. -/
def bind (l : LinkSocket) : Sys (Except LinkError Unit × LinkSocket) := do
  match l.refusal? "bind" [.ready] with
  | some e => pure (.error e, l)
  | none =>
    let (outcome, l) ← l.bindDescriptors
    l.settle "bind" .bound outcome

/-! ## Starting and stopping -/

/-- Moves to a state with a report, if the state allows it. -/
def move (l : LinkSocket) (operation : String) (allowed : List LinkState) (next : LinkState)
    (message : String) : Sys (Except LinkError Unit × LinkSocket) := do
  match l.refusal? operation allowed with
  | some e => pure (.error e, l)
  | none =>
    Host.report (Log.info message [l.roleField])
    pure (.ok (), { l with state := next })

/-- Lets frames flow. -/
def start (l : LinkSocket) : Sys (Except LinkError Unit × LinkSocket) :=
  l.move "start" [.bound, .paused] .running "link socket running"

/-- Holds frames back. -/
def stop (l : LinkSocket) : Sys (Except LinkError Unit × LinkSocket) :=
  l.move "stop" [.running] .paused "link socket paused"

/-! ## Working -/

/-- What a transmitter on an interface sends. -/
def plan (l : LinkSocket) (interface : Interface) (traffic : TrafficOptions) : TransmitPlan where
  kind := l.config.kind
  source := interface.mac
  sap := l.config.sap
  interfaceIndex := interface.index
  payloadLength := traffic.payloadLength
  delay := traffic.delay

/-- The channel for the role of the link, if it has one. -/
def channel? (l : LinkSocket) : Option Channel :=
  match l.transport, l.config.role with
  | .unopened, _ => none
  | .direct s, _ => some (.socket s)
  | .rings rxRing _ _ _, .receiver => rxRing.map .ring
  | .rings _ txRing _ _, .transmitter => txRing.map .ring

/-- What moves the frames of the link. -/
def worker? (l : LinkSocket) (traffic : TrafficOptions) : Except LinkError Worker :=
  match l.refusal? "watch" [.running] with
  | some e => .error e
  | none =>
    match l.identity, l.channel? with
    | none, _ => .error (.resourceUnavailable "interface not resolved")
    | some _, none => .error (.resourceUnavailable "no descriptor for the socket's role")
    | some interface, some channel =>
      .ok (match l.config.role with
        | .receiver => .receiver { channel, kind := l.config.kind }
        | .transmitter => .transmitter { channel, plan := l.plan interface traffic })

/-- The link with the ring as a worker left it. -/
def putBack (l : LinkSocket) (worker : Worker) : LinkSocket :=
  match l.transport, worker, worker.channel with
  | .rings _ txRing rx tx, .receiver _, .ring r =>
    { l with transport := .rings (some r) txRing rx tx }
  | .rings rxRing _ rx tx, .transmitter _, .ring r =>
    { l with transport := .rings rxRing (some r) rx tx }
  | _, _, _ => l

/-! ## Closing -/

/-- The failure of an outcome, if it is one. -/
def failures : Except LinkError Unit → List LinkError
  | .ok () => []
  | .error e => [e]

/-- Closes a packet socket. -/
def closeSocket (s : PacketSocket) : Sys (List LinkError) := do
  match ← s.close with
  | .ok () => pure []
  | .error e => pure [.resource "close" e]

/-- Unmaps a ring, if there is one. -/
def closeRing : Option Ring → Sys (List LinkError)
  | none => pure []
  | some r => do pure (failures (← r.close))

/-- The complaint about rings that were never mapped. -/
def unmappedFailure (rxRing txRing : Option Ring) : List LinkError :=
  match rxRing, txRing with
  | some _, some _ => []
  | none, some _ => [.resourceUnavailable "rx ring never mapped"]
  | some _, none => [.resourceUnavailable "tx ring never mapped"]
  | none, none => [.resourceUnavailable "rx/tx ring never mapped"]

/-- Gives the descriptors back and lists what failed. -/
def closeTransport (l : LinkSocket) : Sys (List LinkError) := do
  match l.transport with
  | .unopened =>
    pure (if l.usesRing then [.resourceUnavailable "packet rings were never mapped"] else [])
  | .direct s => closeSocket s
  | .rings rxRing txRing rx tx =>
    let first ← closeRing rxRing
    let second ← closeRing txRing
    let third ← closeSocket rx
    let fourth ← closeSocket tx
    pure (first ++ second ++ unmappedFailure rxRing txRing ++ third ++ fourth)

/-- The outcome of a disposal in which these steps failed. -/
def teardownOutcome : List LinkError → Except LinkError Unit
  | [] => .ok ()
  | [e] => .error e
  | es => .error (.teardown es)

/-- Gives everything back. Closing a closed link does nothing. -/
def close (l : LinkSocket) : Sys (Except LinkError Unit × LinkSocket) := do
  if l.state = .closed then pure (.ok (), l)
  else
    let failed ← l.closeTransport
    pure (teardownOutcome failed, { l with transport := .unopened, state := .closed })

/-- Closes a link that is given up without having been closed. -/
def discard (l : LinkSocket) : Sys Unit := do
  if l.state = .closed then pure ()
  else
    Host.report (Log.warn "link socket dropped without close" [("state", l.state.label)])
    match ← l.close with
    | (.ok (), _) => pure ()
    | (.error e, _) => Host.report (Log.warn "teardown on drop failed" [("error", e.message)])

end LinkSocket

end PacketLink
