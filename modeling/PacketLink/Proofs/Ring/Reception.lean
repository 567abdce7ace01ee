import PacketLink.Proofs.Ring.Laps
import PacketLink.Proofs.Ring.Operations

/-!
# Frames that pass through a ring for receiving

A kernel and a program share a ring. The kernel delivers frames, each into the slot at its own
cursor if that slot is its own; the program claims and releases. They take turns in any order.

* `Capture`: a frame as the kernel delivers it and as the program sees it.
* `Shows`: a slot holds a frame, in whatever place of the slot and with whatever else around it.
* `Reception`: the ring with the kernel's cursor, the frames delivered and those seen.
* `Reception.Step`: one turn of the kernel or of the program. A release puts on record what the
  program sees of its slot at that moment.
* `reception_lossless`: in every state that can be reached, the frames seen are the first frames
  delivered, in order and unchanged, and the slots that belong to the program are those of the
  frames not yet released.

The invariant (`Reception.Inv`) numbers the frames: those from the number of releases up to the
number of deliveries are shown by their slots, and the other slots are free.
-/

namespace PacketLink.Ring

open Host SlotMemory

/-- A frame on its way through a slot. -/
structure Capture where
  data : Bytes
  /-- The number of captured bytes. -/
  captured : Nat
  /-- The length on the wire. -/
  wireLength : Nat
  /-- Whether it was too long for the slot. -/
  cut : Bool
deriving DecidableEq

/-- A slot of `size` bytes belongs to the program and holds the frame, inside the slot. -/
structure Shows (size : Nat) (m : SlotMemory) (i : Nat) (f : Capture) : Prop where
  user : isUser (m.status i) = true
  cut : isCopy (m.status i) = f.cut
  wireLength : m.wireLength i = f.wireLength
  captured : m.snapLength i = f.captured
  inside : m.frameOffset i + f.captured ≤ size
  data : m.read i (m.frameOffset i) f.captured = f.data

/-- What the program sees of a slot that it holds. -/
def view (r : Ring) (m : SlotMemory) (slot : Slot) : Option Capture :=
  match r.payload m slot with
  | .ok data => some ⟨data, slot.frameBytes, slot.wireLength, slot.status = .error⟩
  | .error _ => none

/-- A ring for receiving, with the kernel's side and what has happened. -/
structure Reception where
  host : Host
  ring : Ring
  /-- The slot that the kernel fills next. -/
  kernelCursor : Nat := 0
  /-- The slot that the program has claimed and not released. -/
  held : Option Slot := none
  /-- The frames that the kernel delivered, in order. -/
  delivered : List Capture := []
  /-- What the program saw right before each release, in order. -/
  seen : List (Option Capture) := []

namespace Reception

/-- The memory of the ring. -/
def memory (s : Reception) : SlotMemory := s.ring.memory s.host

/-- The kernel delivers a frame: it writes into one slot only, until that shows the frame. What
else changes on the host is of no importance. -/
structure Delivers (s : Reception) (f : Capture) (h' : Host) : Prop where
  free : s.memory.status s.kernelCursor = SlotMemory.free
  count : (s.ring.memory h').count = s.memory.count
  others : ∀ j, j ≠ s.kernelCursor → (s.ring.memory h').slot j = s.memory.slot j
  shows : Shows s.ring.slotSize (s.ring.memory h') s.kernelCursor f

/-- One turn of the kernel or of the program. -/
inductive Step : Reception → Reception → Prop where
  | deliver {s : Reception} {f : Capture} {h : Host} (hd : s.Delivers f h) :
    Step s { s with
      host := h
      kernelCursor := (s.kernelCursor + 1) % s.ring.capacity
      delivered := s.delivered ++ [f] }
  | acquire {s : Reception} {slot? : Option Slot} {r : Ring} {h : Host}
      (ha : s.ring.acquireRead.run s.host = ((.ok slot?, r), h)) :
    Step s { s with host := h, ring := r, held := slot? }
  | release {s : Reception} {r : Ring} {h : Host}
      (hr : s.ring.releaseRead.run s.host = ((.ok (), r), h)) :
    Step s { s with
      host := h, ring := r, held := none
      seen := s.seen ++ [s.held.bind (s.ring.view s.memory)] }
  | refuse {s : Reception} {e : LinkError} {r : Ring} {h : Host}
      (hr : s.ring.releaseRead.run s.host = ((.error e, r), h)) :
    Step s { s with host := h, ring := r }

/-- What can be reached from a ring as it is on a host. -/
inductive Reachable (h : Host) (r : Ring) : Reception → Prop where
  | start : Reachable h r { host := h, ring := r }
  | step {s s' : Reception} (hs : Reachable h r s) (ht : Step s s') : Reachable h r s'

end Reception

/-! ## What a slot shows -/

variable {r : Ring} {m m' : SlotMemory} {i : Nat} {f : Capture}

theorem Shows.congr {size : Nat} (h : Shows size m i f) (hm : m'.slot i = m.slot i) :
    Shows size m' i f := by
  obtain ⟨hu, hc, hw, hs, hi, hd⟩ := h
  simp only [SlotMemory.status, SlotMemory.wireLength, snapLength, frameOffset, word,
    SlotMemory.read] at *
  rw [← hm] at hu hc hw hs hi hd
  exact ⟨hu, hc, hw, hs, hi, hd⟩

theorem Shows.ne_free {size : Nat} (h : Shows size m i f) : m.status i ≠ free := by
  intro he
  have hu := h.user
  rw [he] at hu
  cases hu

/-- A claimed slot that shows a frame is seen to hold it. -/
theorem Shows.view_eq (h : Shows r.slotSize m r.cursor f) (hc : r.claimed = true) {slot : Slot}
    (hs : r.readSlot? m = some slot) : r.view m slot = some f := by
  obtain ⟨-, hi, ht, ho, hb, hw⟩ := readSlot?_eq_some hs
  have hin := h.inside
  rw [Nat.min_eq_left (by omega)] at ho
  rw [h.captured, ho, Nat.min_eq_left (by omega)] at hb
  have hcut : decide (slot.status = .error) = f.cut := by
    rw [ht, ← h.cut]
    cases isCopy (m.status r.cursor) <;> simp
  rw [view, payload_eq_ok hc hi, hi, ho, hb, h.data, hw, h.wireLength, hcut]

/-! ## The kernel of the host -/

/-- A delivery that the kernel makes into slots of `size` bytes: the frame is where the header says
and inside the slot, and the numbers fit into the header. -/
structure Fits (size : Nat) (d : Delivery) : Prop where
  frameOffset : d.frameOffset = deliveryOffset
  snapLength : d.snapLength = d.data.length
  inside : deliveryOffset + d.data.length ≤ size
  size : size < Nat.pow 256 4
  wireLength : d.wireLength < Nat.pow 256 4
  flags : d.flags < Nat.pow 256 8

/-- The frame of a delivery. -/
def Capture.ofDelivery (d : Delivery) : Capture :=
  ⟨d.data, d.snapLength, d.wireLength, isCopy d.flags⟩

/-- A slot shows what the kernel delivers into it. -/
theorem shows_deliver {size : Nat} {d : Delivery} (hd : Fits size d)
    (hl : (m.slot i).length = size) : Shows size (m.deliver i d) i (.ofDelivery d) := by
  have hin := hd.inside
  have hs := hd.snapLength
  unfold deliveryOffset at hin
  have hstatus := m.status_deliver (i := i) (by omega) hd.flags
  have hoff := m.frameOffset_deliver (i := i) (by omega) (by rw [hd.frameOffset]; decide)
  rw [hd.frameOffset] at hoff
  refine ⟨?_, ?_, m.wireLength_deliver (by omega) hd.wireLength,
    m.snapLength_deliver (by omega) (by have := hd.size; omega), ?_, ?_⟩
  · rw [hstatus, isUser, Nat.testBit_or]
    rfl
  · rw [hstatus, isCopy, Nat.testBit_or]
    exact Bool.false_or _
  · rw [hoff, Capture.ofDelivery, hs]
    exact hd.inside
  · rw [hoff, Capture.ofDelivery, hs]
    exact m.read_deliver (by rw [hl]; exact hd.inside)

namespace Reception

/-- The kernel of the host is one that delivers as it should. -/
theorem delivers_deliver {s : Reception} {k : Mapping} {d : Delivery}
    (hk : s.host.mappings[s.ring.mapping.number]? = some k)
    (hfree : s.memory.status s.kernelCursor = SlotMemory.free)
    (hl : (s.memory.slot s.kernelCursor).length = s.ring.slotSize) (hd : Fits s.ring.slotSize d) :
    s.Delivers (.ofDelivery d)
      (s.host.onMemory s.ring.mapping fun m => m.deliver s.kernelCursor d) := by
  have hm : s.ring.memory (s.host.onMemory s.ring.mapping fun m => m.deliver s.kernelCursor d) =
      s.memory.deliver s.kernelCursor d := memoryOf_onMemory hk _
  refine ⟨hfree, ?_, fun j hj => ?_, ?_⟩
  · rw [hm, count_deliver]
  · rw [hm, slot_deliver_of_ne _ (Ne.symm hj)]
  · rw [hm]
    exact shows_deliver hd hl

/-! ## The invariant -/

/-- The frames are numbered in the order of delivery, and frame `n` has slot `n % capacity`. -/
structure Inv (s : Reception) : Prop where
  direction : s.ring.direction = .receive
  capacity_pos : 0 < s.ring.capacity
  count : s.memory.count = s.ring.capacity
  released_le : s.seen.length ≤ s.delivered.length
  window_le : s.delivered.length ≤ s.seen.length + s.ring.capacity
  cursor : s.ring.cursor = s.seen.length % s.ring.capacity
  kernelCursor : s.kernelCursor = s.delivered.length % s.ring.capacity
  /-- A frame that was delivered and not released is in its slot. -/
  shows : ∀ n f, s.seen.length ≤ n → s.delivered[n]? = some f →
    Shows s.ring.slotSize s.memory (n % s.ring.capacity) f
  /-- The slots of the frames to come are free. -/
  free : ∀ n, s.delivered.length ≤ n → n < s.seen.length + s.ring.capacity →
    s.memory.status (n % s.ring.capacity) = SlotMemory.free
  seen_eq : s.seen = (s.delivered.take s.seen.length).map some
  held : s.held = if s.ring.claimed then s.ring.readSlot? s.memory else none
  /-- Only a slot with a frame is claimed. -/
  claimed : s.ring.claimed = true → s.seen.length < s.delivered.length

theorem Inv.start {r : Ring} {h : Host} (hf : r.Fresh h) (hd : r.direction = .receive) :
    Inv { host := h, ring := r } where
  direction := hd
  capacity_pos := hf.capacity_pos
  count := by simp [memory, hf.memory]
  released_le := Nat.le_refl 0
  window_le := by simp
  cursor := by simp [hf.cursor]
  kernelCursor := by simp
  shows := by simp
  free := by simp [memory, hf.memory, status_zeroed]
  seen_eq := rfl
  held := by simp [hf.claimed]
  claimed := by simp [hf.claimed]

variable {s s' : Reception}

/-- The next frame, if there is one, is in the slot at the cursor. -/
theorem Inv.shows_next (hi : s.Inv) {f : Capture} (hn : s.delivered[s.seen.length]? = some f) :
    Shows s.ring.slotSize s.memory s.ring.cursor f := by
  rw [hi.cursor]
  exact hi.shows _ f (Nat.le_refl _) hn

theorem Inv.isUser_cursor_iff (hi : s.Inv) :
    isUser (s.memory.status s.ring.cursor) = true ↔ s.seen.length < s.delivered.length := by
  constructor
  · intro hu
    refine Nat.lt_of_not_ge fun hn => ?_
    have hp := hi.capacity_pos
    have hfree := hi.free s.seen.length (by omega) (by omega)
    rw [← hi.cursor] at hfree
    rw [hfree] at hu
    cases hu
  · intro hn
    exact (hi.shows_next (List.getElem?_eq_getElem hn)).user

/-- A full ring has the frame to be released next in the slot at the kernel's cursor, so the kernel
does not deliver into it. -/
theorem Inv.room (hi : s.Inv) (hfree : s.memory.status s.kernelCursor = SlotMemory.free) :
    s.delivered.length < s.seen.length + s.ring.capacity := by
  refine Nat.lt_of_not_ge fun hn => ?_
  have hp := hi.capacity_pos
  have hwindow := hi.window_le
  have hlen : s.delivered.length = s.seen.length + s.ring.capacity := by omega
  have hnext := hi.shows_next (List.getElem?_eq_getElem (by omega))
  have hk := hi.kernelCursor
  rw [hlen, Nat.add_mod_right, ← hi.cursor] at hk
  exact hnext.ne_free (hk ▸ hfree)

/-- A delivery leaves the slots of all other frames of the lap alone. -/
theorem Inv.slot_delivered (hi : s.Inv) {f : Capture} {h : Host} (hd : s.Delivers f h) {n : Nat}
    (hn : s.seen.length ≤ n) (hn' : n < s.seen.length + s.ring.capacity)
    (hne : n ≠ s.delivered.length) :
    (s.ring.memory h).slot (n % s.ring.capacity) = s.memory.slot (n % s.ring.capacity) := by
  refine hd.others _ ?_
  rw [hi.kernelCursor]
  exact mod_ne_mod ⟨hn, hn'⟩ ⟨hi.released_le, hi.room hd.free⟩ hne

/-- A claimed slot has a frame already. -/
theorem Inv.held_delivered (hi : s.Inv) {f : Capture} {h : Host} (hd : s.Delivers f h) :
    s.held = if s.ring.claimed then s.ring.readSlot? (s.ring.memory h) else none := by
  rw [hi.held]
  by_cases hc : s.ring.claimed = true
  · have hlt := hi.claimed hc
    have hroom := hi.room hd.free
    have hkept := hi.slot_delivered hd (Nat.le_refl _) (by omega) (by omega)
    rw [← hi.cursor] at hkept
    rw [if_pos hc, if_pos hc, readSlot?_congr hkept]
  · rw [if_neg hc, if_neg hc]

theorem Inv.deliver (hi : s.Inv) {f : Capture} {h : Host} (hd : s.Delivers f h) :
    Inv { s with
      host := h
      kernelCursor := (s.kernelCursor + 1) % s.ring.capacity
      delivered := s.delivered ++ [f] } := by
  have hk := hi.kernelCursor
  have hle := hi.released_le
  have hroom := hi.room hd.free
  refine ⟨hi.direction, hi.capacity_pos, hd.count.trans hi.count, ?_, ?_, hi.cursor, ?_, ?_, ?_, ?_,
    hi.held_delivered hd, ?_⟩
  · simp only [List.length_append, List.length_singleton]; omega
  · simp only [List.length_append, List.length_singleton]; omega
  · simp only [hk, mod_add_one_mod, List.length_append, List.length_singleton]
  · intro n g hn hg
    by_cases hlt : n < s.delivered.length
    · rw [List.getElem?_append_left hlt] at hg
      exact (hi.shows n g hn hg).congr (hi.slot_delivered hd hn (by omega) (by omega))
    · rw [List.getElem?_append_right (by omega), List.getElem?_singleton] at hg
      split at hg
      · cases hg
        have hlast : n = s.delivered.length := by omega
        have := hd.shows
        rw [hk, ← hlast] at this
        exact this
      · cases hg
  · intro n hn hn'
    simp only [List.length_append, List.length_singleton] at hn
    have hkept := hi.slot_delivered hd (n := n) (by omega) hn' (by omega)
    exact (status_congr hkept).trans (hi.free n (by omega) hn')
  · rw [List.take_append_of_le_length hle]
    exact hi.seen_eq
  · intro hc
    have := hi.claimed hc
    simp only [List.length_append, List.length_singleton]
    omega

/-- The slots stay as they are while the program looks for a frame. -/
theorem Inv.withClaim (hi : s.Inv) {h : Host} {c : Bool} {l : Nat} {held : Option Slot}
    (hm : h.memoryOf s.ring.mapping = s.memory)
    (hh : held = if c then s.ring.readSlot? s.memory else none)
    (hc : c = true → s.seen.length < s.delivered.length) :
    Inv { s with host := h, ring := { s.ring with claimed := c, lossReports := l }, held } where
  direction := hi.direction
  capacity_pos := hi.capacity_pos
  count := (congrArg SlotMemory.count hm).trans hi.count
  released_le := hi.released_le
  window_le := hi.window_le
  cursor := hi.cursor
  kernelCursor := hi.kernelCursor
  shows n f hn hf := (hi.shows n f hn hf).congr (congrArg (SlotMemory.slot · _) hm)
  free n hn hn' := (congrArg (SlotMemory.status · _) hm).trans (hi.free n hn hn')
  seen_eq := hi.seen_eq
  held := hh.trans (by rw [← hm]; rfl)
  claimed := hc

theorem Inv.acquire (hi : s.Inv) {slot? : Option Slot} {r : Ring} {h : Host}
    (ha : s.ring.acquireRead.run s.host = ((.ok slot?, r), h)) :
    Inv { s with host := h, ring := r, held := slot? } := by
  obtain ⟨h', hrun, hkeep⟩ := acquireRead_run hi.direction s.host
  rw [hrun] at ha
  obtain ⟨hans, rfl⟩ := Prod.mk.inj ha
  obtain ⟨hslot, rfl⟩ := Prod.mk.inj hans
  cases hslot
  have hm : h'.memoryOf s.ring.mapping = s.memory :=
    memoryOf_congr (congrArg Rings.mappings hkeep) s.ring.mapping
  have hc := readSlot?_eq_none_iff.trans (not_congr hi.isUser_cursor_iff)
  unfold afterAcquire
  cases hr : s.ring.readSlot? (s.ring.memory s.host) with
  | none =>
    have hoff : s.ring.claimed = false :=
      Bool.eq_false_iff.mpr fun hon => hc.mp hr (hi.claimed hon)
    exact hi.withClaim hm (by simp [hoff]) hi.claimed
  | some slot =>
    refine hi.withClaim hm (by rw [if_pos rfl]; exact hr.symm) fun _ => ?_
    refine Nat.lt_of_not_ge fun hn => ?_
    rw [show s.ring.readSlot? (s.ring.memory s.host) = none from hc.mpr (by omega)] at hr
    cases hr

/-- What the program sees of a slot that it holds is the next frame. -/
theorem Inv.view_held (hi : s.Inv) (hc : s.ring.claimed = true) :
    s.held.bind (s.ring.view s.memory) = s.delivered[s.seen.length]? := by
  have hlt := hi.claimed hc
  have hnext := List.getElem?_eq_getElem hlt
  rw [hi.held, if_pos hc]
  cases hr : s.ring.readSlot? s.memory with
  | none => exact absurd (hi.isUser_cursor_iff.mpr hlt) (readSlot?_eq_none_iff.mp hr)
  | some slot => exact ((hi.shows_next hnext).view_eq hc hr).trans hnext.symm

/-- With a release the next frame is one of those seen. -/
theorem Inv.seen_released (hi : s.Inv) (hc : s.ring.claimed = true) :
    s.seen ++ [s.held.bind (s.ring.view s.memory)] =
      (s.delivered.take (s.seen.length + 1)).map some := by
  have hlt := hi.claimed hc
  have hnext := List.getElem?_eq_getElem hlt
  have htake : s.delivered.take (s.seen.length + 1) =
      s.delivered.take s.seen.length ++ [s.delivered[s.seen.length]] := by
    rw [List.take_add_one, hnext, Option.toList_some]
  rw [hi.view_held hc, hnext, htake, List.map_append, ← hi.seen_eq]
  rfl

/-- A release leaves the slots of the frames that follow alone. -/
theorem Inv.slot_released (hi : s.Inv) {n : Nat} (hn : s.seen.length < n)
    (hn' : n < s.seen.length + s.ring.capacity) :
    (s.memory.setStatus s.ring.cursor SlotMemory.free).slot (n % s.ring.capacity) =
      s.memory.slot (n % s.ring.capacity) := by
  refine slot_setStatus_of_ne _ ?_ _
  rw [hi.cursor]
  exact mod_ne_mod (a := s.seen.length) (by omega) (by omega) (by omega)

theorem Inv.release (hi : s.Inv) {r : Ring} {h : Host}
    (hr : s.ring.releaseRead.run s.host = ((.ok (), r), h)) :
    Inv { s with
      host := h, ring := r, held := none
      seen := s.seen ++ [s.held.bind (s.ring.view s.memory)] } := by
  have hp := hi.capacity_pos
  have hc : s.ring.claimed = true := by
    cases hc : s.ring.claimed with
    | true => rfl
    | false =>
      rw [releaseRead_run_unclaimed hc] at hr
      cases (Prod.mk.inj (Prod.mk.inj hr).1).1
  rw [releaseRead_run hc] at hr
  obtain ⟨hans, rfl⟩ := Prod.mk.inj hr
  obtain ⟨-, rfl⟩ := Prod.mk.inj hans
  have hlt := hi.claimed hc
  obtain ⟨k, hk⟩ := exists_mapping (Nat.lt_of_lt_of_eq hp hi.count.symm)
  have hm := memoryOf_onMemory hk fun m => m.setStatus s.ring.cursor SlotMemory.free
  change _ = s.memory.setStatus _ _ at hm
  have hwindow := hi.window_le
  have hlen : (s.seen ++ [s.held.bind (s.ring.view s.memory)]).length = s.seen.length + 1 := by simp
  refine ⟨hi.direction, hp, ?_, ?_, ?_, ?_, hi.kernelCursor, ?_, ?_, ?_, rfl, nofun⟩
  · refine (congrArg SlotMemory.count hm).trans ?_
    rw [count_setStatus]
    exact hi.count
  · simp only [hlen]; omega
  · simp only [hlen, advance_capacity]; omega
  · simp only [hlen, advance_cursor, hi.cursor, mod_add_one_mod]
    rfl
  · intro n f hn hf
    simp only [hlen] at hn
    have hlt' : n < s.delivered.length := (List.getElem?_eq_some_iff.mp hf).1
    refine (hi.shows n f (by omega) hf).congr ?_
    have hkept := hi.slot_released (n := n) (by omega) (by omega)
    exact (congrArg (SlotMemory.slot · _) hm).trans hkept
  · intro n hn hn'
    simp only [hlen, advance_capacity] at hn'
    change s.delivered.length ≤ n at hn
    refine (congrArg (SlotMemory.status · _) hm).trans ?_
    show (s.memory.setStatus s.ring.cursor SlotMemory.free).status (n % s.ring.capacity) = _
    by_cases hlast : n = s.seen.length + s.ring.capacity
    · rw [hlast, Nat.add_mod_right, ← hi.cursor]
      exact status_setStatus_free _
    · have hkept := hi.slot_released (n := n) (by omega) (by omega)
      exact (status_congr hkept).trans (hi.free n hn (by omega))
  · simp only [hlen]
    exact hi.seen_released hc

theorem Inv.step (hi : s.Inv) (ht : Step s s') : s'.Inv := by
  cases ht with
  | deliver hd => exact hi.deliver hd
  | acquire ha => exact hi.acquire ha
  | release hr => exact hi.release hr
  | refuse hr =>
    -- Only a ring without a claim refuses, and it stays as it is.
    cases hc : s.ring.claimed with
    | true =>
      rw [releaseRead_run hc] at hr
      cases (Prod.mk.inj (Prod.mk.inj hr).1).1
    | false =>
      rw [releaseRead_run_unclaimed hc] at hr
      obtain ⟨hans, rfl⟩ := Prod.mk.inj hr
      obtain ⟨-, rfl⟩ := Prod.mk.inj hans
      exact hi

theorem Reachable.inv {h : Host} {r : Ring} (hf : r.Fresh h) (hd : r.direction = .receive)
    (hs : Reachable h r s) : s.Inv := by
  induction hs with
  | start => exact Inv.start hf hd
  | step hs ht ih => exact ih.step ht

/-! ## What a reception is good for -/

/-- Frames pass through the ring in order, none is lost, doubled or altered, and the program has
the slots of the frames that it has not released. -/
structure Lossless (s : Reception) : Prop where
  /-- Before each release the program saw the next frame that the kernel had delivered. -/
  seen_eq : s.seen = (s.delivered.take s.seen.length).map some
  released_le : s.seen.length ≤ s.delivered.length
  window_le : s.delivered.length ≤ s.seen.length + s.ring.capacity
  cursor : s.ring.cursor = s.seen.length % s.ring.capacity
  kernelCursor : s.kernelCursor = s.delivered.length % s.ring.capacity
  /-- The program finds no frame exactly if it has released all that were delivered. -/
  acquire_none : (s.ring.acquireRead.run s.host).1.1 = .ok none ↔
    s.seen.length = s.delivered.length
  /-- Otherwise it finds the next one and claims its slot. -/
  acquire_some : ∀ f, s.delivered[s.seen.length]? = some f → ∃ slot r h,
    s.ring.acquireRead.run s.host = ((.ok (some slot), r), h) ∧ r.claimed = true ∧
      r.view (r.memory h) slot = some f
  /-- The slot that it holds, if it holds one, has the next frame. -/
  held : ∀ slot, s.held = some slot → ∃ f, s.delivered[s.seen.length]? = some f ∧
    s.ring.view s.memory slot = some f
  /-- The slots of the program are those of the frames not released, from its cursor on. -/
  isUser_iff : ∀ i, i < s.ring.capacity → (isUser (s.memory.status i) = true ↔
    ∃ n, n < s.delivered.length - s.seen.length ∧ i = (s.ring.cursor + n) % s.ring.capacity)

theorem Inv.acquire_none (hi : s.Inv) : (s.ring.acquireRead.run s.host).1.1 = .ok none ↔
    s.seen.length = s.delivered.length := by
  obtain ⟨h', hrun, -⟩ := acquireRead_run hi.direction s.host
  have hle := hi.released_le
  have hn := readSlot?_eq_none_iff.trans (not_congr hi.isUser_cursor_iff)
  rw [hrun]
  constructor
  · intro he
    have := hn.mp (Except.ok.inj he)
    omega
  · intro he
    exact congrArg Except.ok (hn.mpr (by omega))

theorem Inv.acquire_some (hi : s.Inv) {f : Capture}
    (hf : s.delivered[s.seen.length]? = some f) : ∃ slot r h,
      s.ring.acquireRead.run s.host = ((.ok (some slot), r), h) ∧ r.claimed = true ∧
        r.view (r.memory h) slot = some f := by
  obtain ⟨h', hrun, hkeep⟩ := acquireRead_run hi.direction s.host
  have hu := (hi.shows_next hf).user
  cases hr : s.ring.readSlot? (s.ring.memory s.host) with
  | none => exact absurd hu (readSlot?_eq_none_iff.mp hr)
  | some slot =>
    have hc : (s.ring.afterAcquire (s.ring.memory s.host)).claimed = true := by
      unfold afterAcquire
      rw [hr]
    -- After the step the program holds the slot, and the invariant says what it sees of it.
    have hi' := hi.acquire (hr ▸ hrun)
    exact ⟨slot, _, h', hr ▸ hrun, hc, (hi'.view_held hc).trans hf⟩

theorem Inv.isUser_iff (hi : s.Inv) {i : Nat} (hlt : i < s.ring.capacity) :
    isUser (s.memory.status i) = true ↔ ∃ n, n < s.delivered.length - s.seen.length ∧
      i = (s.ring.cursor + n) % s.ring.capacity := by
  constructor
  · intro hu
    obtain ⟨x, hx, hx', rfl⟩ := exists_mod_eq s.seen.length hlt
    refine ⟨x - s.seen.length, ?_, ?_⟩
    · refine Nat.lt_of_not_ge fun hn => ?_
      rw [hi.free x (by omega) hx'] at hu
      cases hu
    · rw [hi.cursor, Nat.mod_add_mod]
      congr 1
      omega
  · rintro ⟨n, hn, rfl⟩
    rw [hi.cursor, Nat.mod_add_mod]
    exact (hi.shows _ _ (by omega) (List.getElem?_eq_getElem (by omega))).user

/-- A ring for receiving is a lossless queue, however the kernel and the program take turns. -/
theorem reception_lossless {h : Host} {r : Ring} (hf : r.Fresh h) (hd : r.direction = .receive)
    (hs : Reachable h r s) : s.Lossless := by
  have hi := hs.inv hf hd
  refine ⟨hi.seen_eq, hi.released_le, hi.window_le, hi.cursor, hi.kernelCursor, hi.acquire_none,
    fun f hn => hi.acquire_some hn, ?_, fun i => hi.isUser_iff⟩
  intro slot hheld
  have hc : s.ring.claimed = true := by
    cases hc : s.ring.claimed with
    | true => rfl
    | false => cases (hi.held.symm.trans hheld).symm.trans (if_neg (by simp [hc]))
  have hview := hi.view_held hc
  rw [hheld] at hview
  exact ⟨_, List.getElem?_eq_getElem (hi.claimed hc),
    hview.trans (List.getElem?_eq_getElem (hi.claimed hc))⟩

/-- Two frames are delivered into two slots, and the first is claimed and released. -/
theorem reception_lossless_pair : ∃ s : Reception,
    Reachable (pairHost .receive none {}) (pair .receive none) s ∧
      s.delivered.length = 2 ∧ s.seen.length = 1 ∧ s.Lossless := by
  have hf := pair_fresh .receive none {}
  have hfits (data : Bytes) (h : data.length ≤ 64) : Fits 128 (.whole data) :=
    ⟨rfl, rfl, Nat.add_le_add_left h 64, by decide, Nat.lt_of_le_of_lt h (by decide),
      (by decide : 0 < Nat.pow 256 8)⟩
  have h₁ := (Reachable.start (h := _) (r := _)).step <| .deliver <|
    delivers_deliver (s := ⟨pairHost .receive none {}, pair .receive none, 0, none, [], []⟩)
      rfl (by decide) rfl (hfits [1, 2, 3] (by decide))
  have h₂ := h₁.step <| .deliver <|
    delivers_deliver rfl (by decide +kernel) rfl (hfits [4, 5, 6, 7] (by decide))
  obtain ⟨slot, r, h, hrun, hc, -⟩ := (h₂.inv hf rfl).acquire_some rfl
  have h₃ := h₂.step (.acquire hrun)
  have h₄ := h₃.step (.release (releaseRead_run hc h))
  exact ⟨_, h₄, rfl, rfl, reception_lossless hf rfl h₄⟩

end Reception

end PacketLink.Ring
