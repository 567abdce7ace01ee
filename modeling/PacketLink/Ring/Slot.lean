import PacketLink.Host.Basic

/-!
# Slots of a ring

* `SlotStatus`: whose a slot is.
* `SlotStatus.ofWord`: reads the status from the status word. What the bits mean depends on the
  direction: a zero word leaves a slot to the kernel when receiving and to the program when
  sending.
* `WriteClaim.ofWord`: what a claim for writing makes of a status word. It looks at the word by
  itself and does not go through the status.
* `Slot`: a slot as it was when it was claimed.
-/

namespace PacketLink

/-- Whose a slot is. -/
inductive SlotStatus where
  /-- The kernel may fill it. -/
  | availableToKernel
  /-- The program may read or write it. -/
  | ownedByUser
  /-- It waits for the kernel to send it, or is being sent. -/
  | sendRequested
  /-- Its frame was cut short, or refused by the kernel. -/
  | error
deriving DecidableEq, Repr

namespace SlotStatus

/-- The name of a status. -/
def label : SlotStatus → String
  | .availableToKernel => "AvailableToKernel"
  | .ownedByUser => "OwnedByUser"
  | .sendRequested => "SendRequested"
  | .error => "Error"

/-- The status that a status word stands for. -/
def ofWord (direction : RingDirection) (word : Nat) : SlotStatus :=
  match direction with
  | .receive =>
    if SlotMemory.isUser word then
      if SlotMemory.isCopy word then .error else .ownedByUser
    else .availableToKernel
  | .send =>
    if word = SlotMemory.free then .ownedByUser
    else if SlotMemory.isWrongFormat word then .error
    else .sendRequested

end SlotStatus

/-- What a claim for writing makes of a status word. -/
inductive WriteClaim where
  /-- The slot is given out, with this status. -/
  | given (status : SlotStatus)
  /-- The kernel has the slot. -/
  | waiting
  /-- The kernel has the slot although no bit of the word says so: a program that checks its
  assertions panics here, any other takes the slot for one that waits. -/
  | unmarked
deriving DecidableEq, Repr

/-- What a claim for writing makes of a status word. -/
def WriteClaim.ofWord (word : Nat) : WriteClaim :=
  if word = SlotMemory.free then .given .ownedByUser
  else if SlotMemory.isWrongFormat word then .given .error
  else if SlotMemory.isSendRequest word || SlotMemory.isSending word then .waiting
  else .unmarked

/-- A claimed slot. -/
structure Slot where
  index : Nat
  /-- The status at the time of the claim. -/
  status : SlotStatus
  /-- Where the slot begins in the mapping. -/
  headerOffset : Nat
  /-- Where the frame begins in the slot. -/
  payloadOffset : Nat
  /-- The number of captured bytes, or the room for a frame to send. -/
  frameBytes : Nat
  /-- The length on the wire of a received frame. -/
  wireLength : Nat
deriving DecidableEq, Repr

end PacketLink
