import PacketLink.Frame.Describe
import PacketLink.Reactor.Dispatch
import PacketLink.Traffic.Channel

/-!
# Receiving frames

* `Receiver`: takes frames of one kind from a socket or a ring and reports them. Frames from a
  socket go through a buffer, the same one for all of them.
* `Receiver.onReady`: one frame for each turn. A slot of a ring goes back to the kernel whatever
  its frame was like.
-/

namespace PacketLink

/-- The buffer that a receiver begins with: a ring needs none. -/
def Channel.buffer (kind : FrameKind) : Channel → Bytes
  | .socket _ => List.replicate kind.maxLength 0
  | .ring _ => []

/-- Takes frames of one kind and reports them. -/
structure Receiver where
  channel : Channel
  kind : FrameKind
  /-- Where a socket puts its frames. -/
  buffer : Bytes := channel.buffer kind
  /-- The number of frames reported. -/
  received : Nat := 0

namespace Receiver

/-- The report of a received frame. -/
def report (seq : Nat) (f : Frame) : Log.Entry :=
  Log.info ("received frame\n" ++ f.describe)
    [Log.number "seq" seq, ("kind", f.kind.label), Log.number "len" f.length,
      Log.number "wire_len" f.wireLength]

/-- Reads a captured frame and logs what is worth reporting about the capture. -/
def decodeCapture (kind : FrameKind) (captured : Bytes) (wireLength : Nat) :
    Sys (Except LinkError Frame) := do
  match Frame.decode kind captured wireLength with
  | .error e => pure (.error (.frame e))
  | .ok f =>
    Host.reportAll (f.decodeReports captured.length wireLength)
    pure (.ok f)

/-- Takes the next frame from a socket through a buffer; there may be none. -/
def takeFromSocket (s : PacketSocket) (kind : FrameKind) (buffer : Bytes) :
    Sys (Except LinkError (Option Frame) × Bytes) := do
  match ← s.receive buffer with
  | (.error e, buffer) =>
    pure (if e = .wouldBlock then .ok none else .error (.transport "recv" e), buffer)
  | (.ok received, buffer) =>
    let decoded ← decodeCapture kind (buffer.take received.captured) received.wireLength
    pure (decoded.map some, buffer)

/-- Reads the frame in a claimed slot. A frame that was cut short by the kernel is not read. -/
def readSlot (r : Ring) (slot : Slot) (kind : FrameKind) : Sys (Except LinkError Frame) := do
  if slot.status = .error then
    pure (.error (.partialDelivery slot.index slot.frameBytes slot.wireLength))
  else
    match r.payload (r.memory (← get)) slot with
    | .error e => pure (.error e)
    | .ok captured => decodeCapture kind captured slot.wireLength

/-- Takes the next frame from a ring; there may be none. -/
def takeFromRing (r : Ring) (kind : FrameKind) :
    Sys (Except LinkError (Option Frame) × Ring) := do
  match ← r.acquireRead with
  | (.error e, r) => pure (.error e, r)
  | (.ok none, r) => pure (.ok none, r)
  | (.ok (some slot), r) =>
    let decoded ← readSlot r slot kind
    match ← r.releaseRead with
    | (.error e, r) => pure (.error e, r)
    | (.ok (), r) => pure (decoded.map some, r)

/-- Takes the next frame from the channel. -/
def take (x : Receiver) : Sys (Except LinkError (Option Frame) × Receiver) := do
  match x.channel with
  | .socket s =>
    let (taken, buffer) ← takeFromSocket s x.kind x.buffer
    pure (taken, { x with buffer })
  | .ring r =>
    let (taken, r) ← takeFromRing r x.kind
    pure (taken, { x with channel := .ring r })

/-- One turn: takes and reports one frame. -/
def onReady (x : Receiver) : Sys (Except LinkError Dispatch × Receiver) := do
  match ← x.take with
  | (.error e, x) => pure (.error e, x)
  | (.ok none, x) => pure (.ok .idle, x)
  | (.ok (some f), x) =>
    let received := x.received + 1
    Host.report (report received f)
    pure (.ok .handled, { x with received })

/-- What follows a turn that failed for one frame only: the next frame. -/
def afterError : Dispatch := .handled

end Receiver

end PacketLink
