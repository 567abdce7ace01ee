import PacketLink.Link.PacketSocket
import PacketLink.Ring.Slot

/-!
# Rings shared with the kernel

A ring is a power of two of slots of one page each. The status word of a slot says whose it is.
Only the slot at the cursor may be claimed, so frames keep their order.

* `Ring.open?` makes the ring of a socket, `Ring.anonymous?` a ring without a socket.
* Receiving: `acquireRead` claims the slot at the cursor if the kernel has handed it over,
  `payload` reads it, `releaseRead` hands it back and moves on.
* Sending: `acquireWrite` claims the slot at the cursor if the kernel is done with it,
  `submitWrite` fills it, hands it over, moves on, and asks the kernel to send.
* `Ring.close` reports how unmapping went, `discard` logs it.

What an operation looks at is decided by `readSlot?` and `writeSlot?` on the memory alone.
-/

namespace PacketLink

/-- A ring shared with the kernel. -/
structure Ring where
  mapping : Host.MappingId
  direction : RingDirection
  /-- The number of bytes in a slot. -/
  slotSize : Nat
  /-- The number of slots. -/
  capacity : Nat
  /-- The slot to be claimed next. -/
  cursor : Nat
  /-- Whether the slot at the cursor is claimed for reading. -/
  claimed : Bool
  /-- The socket of the ring, if it has one. -/
  socket : Option PacketSocket
  /-- How often the kernel reported lost frames. -/
  lossReports : Nat

namespace Ring

open Host (Outcome)

/-- How many slots a ring has if nothing else is said. -/
def defaultFrames : Nat := 128

/-- Whether a number is a power of two. -/
def isPowerOfTwo (n : Nat) : Bool := Nat.pow 2 n.log2 = n

/-- Whether a ring can have this many slots. -/
def isFrameCount (frames : Nat) : Bool := 2 ≤ frames && isPowerOfTwo frames

/-- The number of slots, if a ring can have as many. -/
def validFrames (frames : Nat) : Except LinkError Nat :=
  if isFrameCount frames then .ok frames
  else .error (.configuration
    ("ring frame count must be a power of two >= 2, got " ++ toString frames))

/-- The room for a frame in a slot of a page. -/
def sendCapacity (pageSize : Nat) : Nat := pageSize - SlotMemory.sendOffset

/-! ## Making a ring -/

/-- The number and the name of the option that sets a ring up. -/
def requestOption : RingDirection → Nat × String
  | .receive => (5, "PACKET_RX_RING")
  | .send => (13, "PACKET_TX_RING")

/-- The number of the option that selects the layout of slots. -/
def versionOption : Nat := 10

/-- What the option that sets a ring up takes: block size, number of blocks, slot size, number of
slots. -/
def request (pageSize frames : Nat) : Bytes :=
  Bytes.littleEndian 4 pageSize ++ Bytes.littleEndian 4 frames ++ Bytes.littleEndian 4 pageSize
    ++ Bytes.littleEndian 4 frames

/-- Maps the slots of a ring. -/
def mapSlots (socket : Option PacketSocket) (direction : RingDirection) (capacity : Nat) :
    Sys (Except LinkError Ring) := do
  let slotSize := (← get).pageSize
  match ← Host.map (socket.map (·.id)) direction capacity with
  | .error e => pure (.error (.setup "mmap" e))
  | .ok mapping =>
    pure (.ok ⟨mapping, direction, slotSize, capacity, 0, false, socket, 0⟩)

/-- Makes the ring of a socket. -/
def open? (socket : PacketSocket) (direction : RingDirection) (frames : Nat) :
    Sys (Except LinkError Ring) := do
  match validFrames frames with
  | .error e => pure (.error e)
  | .ok capacity =>
    let pageSize := (← get).pageSize
    let (option, name) := requestOption direction
    match ← Host.setOption socket.id versionOption (Bytes.littleEndian 4 0) with
    | .error e => pure (.error (.setup "PACKET_VERSION" e))
    | .ok () =>
      match ← Host.setOption socket.id option (request pageSize frames) with
      | .error e => pure (.error (.setup name e))
      | .ok () => mapSlots (some socket) direction capacity

/-- Makes a ring of the same layout without a socket. -/
def anonymous? (direction : RingDirection) (frames : Nat) : Sys (Except LinkError Ring) := do
  match validFrames frames with
  | .error e => pure (.error e)
  | .ok capacity => mapSlots none direction capacity

/-! ## Looking at slots -/

/-- The ring with the cursor on the next slot. -/
def advance (r : Ring) : Ring := { r with cursor := (r.cursor + 1) % r.capacity }

/-- The status of a slot. -/
def status (r : Ring) (m : SlotMemory) (index : Nat) : SlotStatus :=
  .ofWord r.direction (m.status index)

/-- The slot at the cursor, if it holds a received frame. Its extent never leaves the slot,
whatever the header says. -/
def readSlot? (r : Ring) (m : SlotMemory) : Option Slot :=
  let word := m.status r.cursor
  if SlotMemory.isUser word then
    let payloadOffset := min (m.frameOffset r.cursor) r.slotSize
    some {
      index := r.cursor
      status := if SlotMemory.isCopy word then .error else .ownedByUser
      headerOffset := r.cursor * r.slotSize
      payloadOffset
      frameBytes := min (m.snapLength r.cursor) (r.slotSize - payloadOffset)
      wireLength := m.wireLength r.cursor }
  else none

/-- The slot at the cursor as it is given out for writing. -/
def slotForWriting (r : Ring) (status : SlotStatus) : Slot where
  index := r.cursor
  status
  headerOffset := r.cursor * r.slotSize
  payloadOffset := SlotMemory.sendOffset
  frameBytes := sendCapacity r.slotSize
  wireLength := 0

/-- The slot at the cursor, if a frame may be put into it. -/
def writeSlot? (r : Ring) (m : SlotMemory) : Option Slot :=
  match WriteClaim.ofWord (m.status r.cursor) with
  | .given status => some (r.slotForWriting status)
  | .waiting | .unmarked => none

/-- The memory of the ring. -/
def memory (r : Ring) (h : Host) : SlotMemory := h.memoryOf r.mapping

/-! ## Receiving -/

/-- The message about frames that the kernel had no room for. -/
def lossMessage : String := "kernel dropped frames, RX ring full"

/-- Logs that frames were lost before the one at the cursor, with the kernel's counters. Reading
the counters resets them. -/
def reportLoss (r : Ring) : Sys Unit := do
  let place := Log.number "slot" r.cursor
  match r.socket with
  | none => Host.report (Log.warn lossMessage [place])
  | some socket =>
    match ← Host.readStatistics socket.id with
    | .ok (packets, drops) =>
      Host.report (Log.warn lossMessage
        [place, Log.number "packets" packets, Log.number "drops" drops])
    | .error e => Host.report (Log.warn lossMessage [place, ("error", e.message)])

/-- Claims the slot at the cursor if the kernel has handed it over. Claiming again gives the same
slot; lost frames are reported with the first claim. -/
def acquireRead (r : Ring) : Sys (Except LinkError (Option Slot) × Ring) := do
  match r.direction with
  | .send => pure (.error (.ringProtocol "acquire_for_read on a TX ring"), r)
  | .receive =>
    let m := r.memory (← get)
    match r.readSlot? m with
    | none => pure (.ok none, r)
    | some slot =>
      if SlotMemory.isLosing (m.status r.cursor) && !r.claimed then
        r.reportLoss
        pure (.ok (some slot), { r with claimed := true, lossReports := r.lossReports + 1 })
      else
        pure (.ok (some slot), { r with claimed := true })

/-- The frame in the claimed slot. -/
def payload (r : Ring) (m : SlotMemory) (slot : Slot) : Except LinkError Bytes :=
  if r.claimed && slot.index = r.cursor then
    .ok (m.read slot.index slot.payloadOffset slot.frameBytes)
  else .error (.ringProtocol "payload of a slot that is not claimed")

/-- Hands the claimed slot back to the kernel. -/
def releaseRead (r : Ring) : Sys (Except LinkError Unit × Ring) := do
  if r.claimed then
    Host.updateMemory r.mapping fun m => m.setStatus r.cursor SlotMemory.free
    pure (.ok (), { r with claimed := false }.advance)
  else pure (.error (.ringProtocol "release_after_read without a claimed slot"), r)

/-! ## Sending -/

/-- Claims the slot at the cursor if the kernel is done with it. -/
def acquireWrite (r : Ring) : Sys (Except LinkError (Option Slot)) := do
  match r.direction with
  | .receive => pure (.error (.ringProtocol "acquire_for_write on an RX ring"))
  | .send => pure (.ok (r.writeSlot? (r.memory (← get))))

/-- Why a frame may not be put into a slot. -/
def submitRefusal? (r : Ring) (slot : Slot) (frame : Bytes) : Option LinkError :=
  if r.direction = .receive then some (.ringProtocol "submit_write on an RX ring")
  else if slot.index ≠ r.cursor ∨ slot.status = .sendRequested then
    some (.ringProtocol "submit_write on a slot not acquired at the cursor")
  else if slot.frameBytes < frame.length then
    some (.frame (.payloadTooLarge .raw slot.frameBytes frame.length))
  else none

/-- The memory with a frame in a slot that is handed over for sending. -/
def fill (m : SlotMemory) (index : Nat) (frame : Bytes) : SlotMemory :=
  ((m.write index SlotMemory.sendOffset frame).setWord index 8 4 frame.length).setStatus index
    SlotMemory.sendRequest

/-- Puts a frame into a slot, hands the slot over and asks the kernel to send. If asking fails the
frame stays where it is. -/
def submitWrite (r : Ring) (slot : Slot) (frame : Bytes) :
    Sys (Except LinkError Unit × Ring) := do
  match r.submitRefusal? slot frame with
  | some e => pure (.error e, r)
  | none =>
    Host.updateMemory r.mapping fun m => fill m slot.index frame
    match r.socket with
    | none => pure (.ok (), r.advance)
    | some socket =>
      match ← Host.flush socket.id with
      | .ok () => pure (.ok (), r.advance)
      | .error e => pure (.error (.transport "tx ring flush" e), r.advance)

/-! ## Giving the ring back -/

/-- Unmaps the ring. -/
def unmap (r : Ring) : Sys (Outcome Unit) :=
  Host.unmap r.mapping (r.socket.map (·.id)) (r.slotSize * r.capacity)

/-- Gives the ring back and reports how that went. -/
def close (r : Ring) : Sys (Except LinkError Unit) := do
  match ← r.unmap with
  | .ok () => pure (.ok ())
  | .error e => pure (.error (.resource "munmap" e))

/-- Gives the ring back and logs a failure. -/
def discard (r : Ring) : Sys Unit := do
  match ← r.unmap with
  | .ok () => pure ()
  | .error e => Host.report (Log.warn "munmap failed during drop" [("error", e.message)])

end Ring

end PacketLink
