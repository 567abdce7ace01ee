import PacketLink.Frame.Codec
import PacketLink.Reactor.Dispatch
import PacketLink.Traffic.Channel

/-!
# Sending test frames

* `TransmitPlan`: what is sent.
* `Transmitter.onReady`: one test frame to all stations for each turn, then a pause.
* `TransmitPlan.panics`: whether there is no memory for the frame. Then the program panics in the
  first turn, which is kept apart from all errors (`Transmitter.onReady?`).
-/

namespace PacketLink

/-- What a transmitter sends. -/
structure TransmitPlan where
  kind : FrameKind
  /-- The hardware address of the interface. -/
  source : MacAddr
  /-- The protocol, which is also the ethertype of 802.3 frames. -/
  sap : UInt16
  interfaceIndex : Nat
  /-- The number of zero bytes that a frame carries. -/
  payloadLength : Nat
  /-- The pause after a frame, in milliseconds. -/
  delay : Nat

/-- The test frame of a plan, if there is memory for it. -/
def TransmitPlan.frame (plan : TransmitPlan) : Except FrameError Frame :=
  Frame.synthetic plan.kind plan.source plan.sap plan.payloadLength

/-- Whether the program panics when it makes the test frame of a plan. -/
def TransmitPlan.panics (plan : TransmitPlan) : Bool := Frame.panics plan.payloadLength

/-- The test frame of a plan, unless the program panics. -/
def TransmitPlan.frame? (plan : TransmitPlan) : Option (Except FrameError Frame) :=
  if plan.panics then none else some plan.frame

/-- Where the frames of a plan go. -/
def TransmitPlan.destination (plan : TransmitPlan) : LinkAddress where
  interfaceIndex := plan.interfaceIndex
  protocol := plan.sap.toNat
  dest := .broadcast

/-- Sends test frames. -/
structure Transmitter where
  channel : Channel
  plan : TransmitPlan
  /-- The number of frames sent. -/
  sent : Nat := 0

namespace Transmitter

/-- Sends bytes through a socket. The answer tells whether they were taken. -/
def sendToSocket (s : PacketSocket) (plan : TransmitPlan) (bytes : Bytes) :
    Sys (Except LinkError Bool) := do
  match ← s.send bytes plan.destination with
  | .error e =>
    pure (if e = .wouldBlock then .ok false else .error (.transport "sendto" e))
  | .ok written =>
    pure (if written = bytes.length then .ok true else .error (.shortSend written bytes.length))

/-- The report of a frame that the kernel did not want. -/
def rejectedReport (slot : Slot) : Log.Entry :=
  Log.warn "kernel rejected the frame previously queued in this slot"
    [Log.number "slot" slot.index]

/-- Puts bytes into a ring. The answer tells whether there was a slot for them. -/
def sendToRing (r : Ring) (bytes : Bytes) : Sys (Except LinkError Bool × Ring) := do
  match ← r.acquireWrite with
  | .error e => pure (.error e, r)
  | .ok none => pure (.ok false, r)
  | .ok (some slot) =>
    if slot.status = .error then Host.report (rejectedReport slot)
    match ← r.submitWrite slot bytes with
    | (.error e, r) => pure (.error e, r)
    | (.ok (), r) => pure (.ok true, r)

/-- Sends bytes through the channel. -/
def send (x : Transmitter) (bytes : Bytes) : Sys (Except LinkError Bool × Transmitter) := do
  match x.channel with
  | .socket s => pure (← sendToSocket s x.plan bytes, x)
  | .ring r =>
    let (sent, r) ← sendToRing r bytes
    pure (sent, { x with channel := .ring r })

/-- One turn: sends one test frame and pauses. There is memory for the frame. -/
def onReady (x : Transmitter) : Sys (Except LinkError Dispatch × Transmitter) := do
  match x.plan.frame with
  | .error e => pure (.error (.frame e), x)
  | .ok f =>
    match ← x.send f.encode with
    | (.error e, x) => pure (.error e, x)
    | (.ok false, x) => pure (.ok .idle, x)
    | (.ok true, x) => pure (.ok (.pause x.plan.delay), { x with sent := x.sent + 1 })

/-- One turn, unless the program panics in it. It makes the frame before anything else. -/
def onReady? (x : Transmitter) : Option (Sys (Except LinkError Dispatch × Transmitter)) :=
  if x.plan.panics then none else some x.onReady

/-- What follows a turn that failed for one frame only: the frame is given up, and the next one
goes out on time. -/
def afterError (x : Transmitter) : Dispatch := .pause x.plan.delay

end Transmitter

end PacketLink
