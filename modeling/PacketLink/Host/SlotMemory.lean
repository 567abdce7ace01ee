import PacketLink.Bytes

/-!
# Slots in memory shared with the kernel

* `SlotMemory`: a row of slots of one size, each a byte string. Reading past the end of a slot
  gives nothing, and writing past it does nothing.
* The header of a slot: its status word at offset 0, the length of the frame on the wire at 8, the
  number of captured bytes at 12, and the offset of the frame in the slot at 16, all with the
  lowest byte first.
* The bits of the status word, which says whose slot it is.
-/

namespace PacketLink

/-- A row of slots shared with the kernel. -/
structure SlotMemory where
  /-- The number of bytes in every slot. -/
  slotSize : Nat
  slots : Array Bytes

namespace SlotMemory

/-- Slots full of zeros. -/
def zeroed (count slotSize : Nat) : SlotMemory :=
  ⟨slotSize, Array.replicate count (List.replicate slotSize 0)⟩

/-- The number of slots. -/
def count (m : SlotMemory) : Nat := m.slots.size

/-- The bytes of a slot; none for a slot that does not exist. -/
def slot (m : SlotMemory) (i : Nat) : Bytes := m.slots.getD i []

/-- Up to `length` bytes of a slot from an offset on. -/
def read (m : SlotMemory) (i offset length : Nat) : Bytes :=
  ((m.slot i).drop offset).take length

/-- A byte string with other bytes put over a part of it; what would stick out is dropped. -/
def overlay (page : Bytes) (offset : Nat) (bytes : Bytes) : Bytes :=
  page.take offset ++ bytes.take (page.length - offset) ++ page.drop (offset + bytes.length)

/-- Writes bytes into a slot from an offset on. -/
def write (m : SlotMemory) (i offset : Nat) (bytes : Bytes) : SlotMemory :=
  { m with slots := m.slots.modify i fun page => overlay page offset bytes }

@[simp] theorem length_overlay (page : Bytes) (offset : Nat) (bytes : Bytes) :
    (overlay page offset bytes).length = page.length := by
  simp [overlay]; omega

@[simp] theorem count_write (m : SlotMemory) (i offset : Nat) (bytes : Bytes) :
    (m.write i offset bytes).count = m.count := by
  simp [write, count]

/-- Writing into one slot leaves the others alone. -/
theorem slot_write_of_ne (m : SlotMemory) {i j : Nat} (h : i ≠ j) (offset : Nat)
    (bytes : Bytes) : (m.write i offset bytes).slot j = m.slot j := by
  simp [write, slot, Array.getElem?_modify, h]

/-- Bytes that fit into a slot are read back from it. -/
theorem read_write_self (m : SlotMemory) (i offset : Nat) (bytes : Bytes)
    (h : offset + bytes.length ≤ (m.slot i).length) :
    (m.write i offset bytes).read i offset bytes.length = bytes := by
  by_cases hi : i < m.slots.size
  · simp [slot, hi] at h
    simp only [read, write, slot, Array.getD_eq_getD_getElem?, Array.getElem?_modify, if_true,
      Array.getElem?_eq_getElem hi, Option.map_some, Option.getD_some, overlay]
    rw [List.append_assoc, List.drop_append_of_le_length (by simp; omega),
      List.drop_of_length_le (by rw [List.length_take]; omega), List.nil_append,
      List.take_of_length_le (l := bytes) (by omega), List.take_left]
  · simp [slot, hi] at h
    simp [h.2, read]

/-- A number of `width` bytes in a slot. -/
def word (m : SlotMemory) (i offset width : Nat) : Nat :=
  Bytes.ofLittleEndian (m.read i offset width)

/-- Writes a number of `width` bytes into a slot. -/
def setWord (m : SlotMemory) (i offset width value : Nat) : SlotMemory :=
  m.write i offset (Bytes.littleEndian width value)

/-- The status word of a slot. -/
def status (m : SlotMemory) (i : Nat) : Nat := m.word i 0 8

/-- Stores the status word of a slot. -/
def setStatus (m : SlotMemory) (i value : Nat) : SlotMemory := m.setWord i 0 8 value

/-- The length on the wire of the frame in a slot. -/
def wireLength (m : SlotMemory) (i : Nat) : Nat := m.word i 8 4

/-- The number of bytes of its frame that a slot holds. -/
def snapLength (m : SlotMemory) (i : Nat) : Nat := m.word i 12 4

/-- Where in a slot its frame begins. -/
def frameOffset (m : SlotMemory) (i : Nat) : Nat := m.word i 16 2

/-! ## Bits of a status word -/

/-- A received frame is there for the program to read. -/
def isUser (status : Nat) : Bool := status.testBit 0

/-- The received frame was too long for the slot. -/
def isCopy (status : Nat) : Bool := status.testBit 1

/-- Frames were lost before this one. -/
def isLosing (status : Nat) : Bool := status.testBit 2

/-- The kernel is asked to send the frame. -/
def isSendRequest (status : Nat) : Bool := status.testBit 0

/-- The kernel is sending the frame. -/
def isSending (status : Nat) : Bool := status.testBit 1

/-- The kernel refused to send the frame. -/
def isWrongFormat (status : Nat) : Bool := status.testBit 2

/-- A slot that belongs to the kernel (when receiving), or is free (when sending). -/
def free : Nat := 0

/-- The status word of a slot handed to the kernel for sending. -/
def sendRequest : Nat := 1

/-! ## The kernel's side -/

/-- Where the kernel puts a frame that it received. -/
def deliveryOffset : Nat := 64

/-- Where the kernel looks for a frame to send. -/
def sendOffset : Nat := 32

/-- A frame as the kernel delivers it into a slot. -/
structure Delivery where
  data : Bytes
  wireLength : Nat
  snapLength : Nat
  frameOffset : Nat
  /-- Status bits beside the one that hands the slot over. -/
  flags : Nat

/-- A frame delivered whole and without remarks. -/
def Delivery.whole (data : Bytes) : Delivery :=
  ⟨data, data.length, data.length, deliveryOffset, 0⟩

/-- The kernel puts a frame into a slot and hands the slot over. -/
def deliver (m : SlotMemory) (i : Nat) (d : Delivery) : SlotMemory :=
  ((((m.write i deliveryOffset d.data).setWord i 8 4 d.wireLength).setWord i 12 4
    d.snapLength).setWord i 16 2 d.frameOffset).setStatus i (1 ||| d.flags)

/-- The frame that a slot holds for sending. -/
def queued (m : SlotMemory) (i : Nat) : Bytes := m.read i sendOffset (m.wireLength i)

end SlotMemory

end PacketLink
