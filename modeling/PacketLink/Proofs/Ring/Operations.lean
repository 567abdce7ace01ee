import PacketLink.Proofs.Host.Rings
import PacketLink.Ring.Basic

/-!
# What the operations of a ring do

One lemma for each operation: its answer, the ring afterwards, and what became of the memory.

* `acquireRead_run`: claiming for reading answers what `readSlot?` finds and touches no memory.
* `releaseRead_run`, `releaseRead_run_unclaimed`: handing a claimed slot back; without a claim
  nothing changes.
* `acquireWrite_run`: claiming for writing answers what `writeSlot?` finds and changes nothing.
* `submitWrite_run`, `submitWrite_run_refused`: a frame that is not refused is put into the slot,
  and then the kernel is asked to send, whether it does or not; a refused one changes nothing.
  `told` is how asking went, and if it failed nothing has become of the ring (`rings_notified`).
* `Blank` and `Fresh`: a ring as it is made (`open?_fresh`, `anonymous?_fresh`). `Made`: a ring
  that was just made, in one way or the other.
* `InUse`: the kernel takes frames from this ring and from no other (`open?_inUse`).
-/

namespace PacketLink.Ring

open Host SlotMemory

variable {r : Ring} {m : SlotMemory}

@[simp] theorem advance_cursor (r : Ring) : r.advance.cursor = (r.cursor + 1) % r.capacity := rfl

@[simp] theorem advance_capacity (r : Ring) : r.advance.capacity = r.capacity := rfl

/-! ## Receiving -/

theorem readSlot?_eq_none_iff : r.readSlot? m = none ↔ ¬ isUser (m.status r.cursor) := by
  by_cases hu : isUser (m.status r.cursor) <;> simp [readSlot?, hu]

theorem readSlot?_eq_some {slot : Slot} (h : r.readSlot? m = some slot) :
    isUser (m.status r.cursor) ∧ slot.index = r.cursor ∧
      slot.status = (if isCopy (m.status r.cursor) then .error else .ownedByUser) ∧
      slot.payloadOffset = min (m.frameOffset r.cursor) r.slotSize ∧
      slot.frameBytes = min (m.snapLength r.cursor) (r.slotSize - slot.payloadOffset) ∧
      slot.wireLength = m.wireLength r.cursor := by
  by_cases hu : isUser (m.status r.cursor)
  · simp only [readSlot?, hu, if_true] at h
    cases h
    exact ⟨hu, rfl, rfl, rfl, rfl, rfl⟩
  · rw [readSlot?_eq_none_iff.mpr hu] at h
    cases h

/-- What is claimed for reading depends on the slot at the cursor alone. -/
theorem readSlot?_congr {m' : SlotMemory} (hm : m'.slot r.cursor = m.slot r.cursor) :
    r.readSlot? m' = r.readSlot? m := by
  have hs : m'.status r.cursor = m.status r.cursor := status_congr hm
  have hw (o n : Nat) : m'.word r.cursor o n = m.word r.cursor o n :=
    congrArg Bytes.ofLittleEndian (read_congr hm o n)
  simp only [readSlot?, hs, SlotMemory.wireLength, snapLength, frameOffset, hw]

/-- The ring after looking for a frame: claimed if there is one, with the loss counted that is
reported with a first claim. -/
def afterAcquire (r : Ring) (m : SlotMemory) : Ring :=
  match r.readSlot? m with
  | none => r
  | some _ =>
    let loss := if isLosing (m.status r.cursor) && !r.claimed then 1 else 0
    { r with claimed := true, lossReports := r.lossReports + loss }

theorem reportLoss_keeps (r : Ring) : Keeps rings r.reportLoss := by
  unfold reportLoss
  cases r.socket with
  | none => exact report_keeps _
  | some socket =>
    refine (readStatistics_keeps socket.id).bind fun outcome => ?_
    cases outcome with
    | error e => exact report_keeps _
    | ok counters => exact report_keeps _

theorem acquireRead_run (hd : r.direction = .receive) (h : Host) :
    ∃ h', r.acquireRead.run h =
        ((.ok (r.readSlot? (r.memory h)), r.afterAcquire (r.memory h)), h') ∧
      h'.rings = h.rings := by
  unfold acquireRead afterAcquire
  simp only [hd, run_bind, run_get]
  cases hs : r.readSlot? (r.memory h) with
  | none => exact ⟨h, rfl, rfl⟩
  | some slot =>
    cases hl : isLosing ((r.memory h).status r.cursor) && !r.claimed with
    | true =>
      simp only [if_true, run_bind, run_pure]
      exact ⟨_, rfl, r.reportLoss_keeps h⟩
    | false =>
      simp only [Bool.false_eq_true, if_false, run_pure]
      exact ⟨h, rfl, rfl⟩

theorem acquireRead_answer (hd : r.direction = .receive) (h : Host) :
    r.acquireRead.run h = ((.ok (r.readSlot? (r.memory h)), r.afterAcquire (r.memory h)),
      (r.acquireRead.run h).2) := by
  obtain ⟨h', hrun, -⟩ := acquireRead_run hd h
  rw [hrun]

theorem releaseRead_run (hc : r.claimed = true) (h : Host) :
    r.releaseRead.run h = ((.ok (), { r with claimed := false }.advance),
      h.onMemory r.mapping fun m => m.setStatus r.cursor free) := by
  unfold releaseRead
  simp only [hc, if_true, run_bind, updateMemory_run, run_pure]

theorem releaseRead_run_unclaimed (hc : r.claimed = false) (h : Host) :
    r.releaseRead.run h =
      ((.error (.ringProtocol "release_after_read without a claimed slot"), r), h) := by
  unfold releaseRead
  simp only [hc, Bool.false_eq_true, if_false, run_pure]

/-- Only a claimed slot is handed back. -/
theorem releaseRead_ok {r' : Ring} {h h' : Host}
    (hr : r.releaseRead.run h = ((.ok (), r'), h')) :
    r.claimed = true ∧ r' = { r with claimed := false }.advance := by
  cases hc : r.claimed with
  | true =>
    rw [releaseRead_run hc] at hr
    exact ⟨rfl, (Prod.mk.inj (Prod.mk.inj hr).1).2.symm⟩
  | false =>
    rw [releaseRead_run_unclaimed hc] at hr
    cases (Prod.mk.inj (Prod.mk.inj hr).1).1

theorem releaseRead_error {e : LinkError} {r' : Ring} {h h' : Host}
    (hr : r.releaseRead.run h = ((.error e, r'), h')) : r' = r := by
  cases hc : r.claimed with
  | true =>
    rw [releaseRead_run hc] at hr
    cases (Prod.mk.inj (Prod.mk.inj hr).1).1
  | false =>
    rw [releaseRead_run_unclaimed hc] at hr
    exact (Prod.mk.inj (Prod.mk.inj hr).1).2.symm

theorem payload_eq_ok {slot : Slot} (hc : r.claimed = true) (hi : slot.index = r.cursor) :
    r.payload m slot = .ok (m.read slot.index slot.payloadOffset slot.frameBytes) := by
  simp [payload, hc, hi]

/-! ## Sending -/

/-- Whether the kernel is done with a slot: it is free, or its frame was refused. -/
def IsClaimable (m : SlotMemory) (i : Nat) : Prop :=
  m.status i = free ∨ isWrongFormat (m.status i) = true

instance (m : SlotMemory) (i : Nat) : Decidable (IsClaimable m i) :=
  inferInstanceAs (Decidable (_ ∨ _))

theorem ofWord_send_eq_sendRequested_iff (i : Nat) :
    SlotStatus.ofWord .send (m.status i) = .sendRequested ↔ ¬ IsClaimable m i := by
  unfold SlotStatus.ofWord IsClaimable
  by_cases hf : m.status i = free
  · simp [hf]
  · by_cases hw : isWrongFormat (m.status i) <;> simp [hf, hw]

/-- A claim for writing gives a slot out exactly under the status that the slot shows, if that is
one of the program's. -/
theorem ofWord_eq_given_iff {word : Nat} {status : SlotStatus} :
    WriteClaim.ofWord word = .given status ↔
      SlotStatus.ofWord .send word = status ∧ status ≠ .sendRequested := by
  unfold WriteClaim.ofWord SlotStatus.ofWord
  by_cases hf : word = free
  · simp only [hf, if_true, WriteClaim.given.injEq, iff_self_and]
    rintro rfl
    exact nofun
  · by_cases hw : isWrongFormat word
    · simp only [hf, hw, if_false, if_true, WriteClaim.given.injEq, iff_self_and]
      rintro rfl
      exact nofun
    · simp only [hf, hw, if_false, Bool.false_eq_true]
      refine ⟨fun h => ?_, fun ⟨hs, hne⟩ => absurd hs.symm hne⟩
      by_cases hp : isSendRequest word || isSending word
      · rw [if_pos hp] at h
        cases h
      · rw [if_neg hp] at h
        cases h

theorem writeSlot?_eq_some_iff {slot : Slot} : r.writeSlot? m = some slot ↔
    ∃ status, WriteClaim.ofWord (m.status r.cursor) = .given status ∧
      r.slotForWriting status = slot := by
  unfold writeSlot?
  cases WriteClaim.ofWord (m.status r.cursor) <;> simp

theorem writeSlot?_eq_none_iff : r.writeSlot? m = none ↔ ¬ IsClaimable m r.cursor := by
  rw [← ofWord_send_eq_sendRequested_iff]
  cases hw : r.writeSlot? m with
  | none =>
    refine ⟨fun _ => Classical.byContradiction fun hs => ?_, fun _ => rfl⟩
    rw [writeSlot?_eq_some_iff.mpr ⟨_, ofWord_eq_given_iff.mpr ⟨rfl, hs⟩, rfl⟩] at hw
    cases hw
  | some slot =>
    obtain ⟨status, hgiven, -⟩ := writeSlot?_eq_some_iff.mp hw
    obtain ⟨hstatus, hne⟩ := ofWord_eq_given_iff.mp hgiven
    exact ⟨nofun, fun hs => absurd (hstatus.symm.trans hs) hne⟩

theorem writeSlot?_eq_some {slot : Slot} (h : r.writeSlot? m = some slot) :
    IsClaimable m r.cursor ∧ slot.index = r.cursor ∧
      slot.status = SlotStatus.ofWord .send (m.status r.cursor) ∧
      slot.status ≠ .sendRequested ∧ slot.frameBytes = sendCapacity r.slotSize := by
  obtain ⟨status, hgiven, rfl⟩ := writeSlot?_eq_some_iff.mp h
  obtain ⟨hstatus, hne⟩ := ofWord_eq_given_iff.mp hgiven
  have hc : IsClaimable m r.cursor := Classical.byContradiction fun hc =>
    hne (hstatus.symm.trans ((ofWord_send_eq_sendRequested_iff r.cursor).mpr hc))
  exact ⟨hc, rfl, hstatus.symm, hne, rfl⟩

theorem acquireWrite_run (hd : r.direction = .send) (h : Host) :
    r.acquireWrite.run h = (.ok (r.writeSlot? (r.memory h)), h) := by
  unfold acquireWrite
  simp only [hd, run_bind, run_get, run_pure]

/-- Whether an answer of `submitWrite` leaves the frame with the kernel: it was handed over, and
at most asking the kernel to send it failed. -/
def isQueued : Except LinkError Unit → Bool
  | .ok () | .error (.transport ..) => true
  | .error _ => false

theorem isQueued_refusal {slot : Slot} {frame : Bytes} {e : LinkError}
    (h : r.submitRefusal? slot frame = some e) : isQueued (.error e) = false := by
  unfold submitRefusal? at h
  split at h
  · cases h; rfl
  · split at h
    · cases h; rfl
    · split at h <;> cases h
      rfl

theorem submitRefusal?_eq_none_iff {slot : Slot} {frame : Bytes} :
    r.submitRefusal? slot frame = none ↔ r.direction = .send ∧ slot.index = r.cursor ∧
      slot.status ≠ .sendRequested ∧ frame.length ≤ slot.frameBytes := by
  unfold submitRefusal?
  cases hd : r.direction with
  | receive => simp
  | send =>
    by_cases hi : slot.index = r.cursor
    · by_cases hs : slot.status = .sendRequested
      · simp [hi, hs]
      · simp [hi, hs]
    · simp [hi]

theorem submitRefusal?_eq_none {slot : Slot} {frame : Bytes} (hd : r.direction = .send)
    (hi : slot.index = r.cursor) (hs : slot.status ≠ .sendRequested) :
    r.submitRefusal? slot frame = none ↔ frame.length ≤ slot.frameBytes := by
  simp [submitRefusal?_eq_none_iff, hd, hi, hs]

theorem submitWrite_run_refused {slot : Slot} {frame : Bytes} {e : LinkError}
    (hr : r.submitRefusal? slot frame = some e) (h : Host) :
    (r.submitWrite slot frame).run h = ((.error e, r), h) := by
  unfold submitWrite
  simp only [hr, run_pure]

/-- The host after the kernel was asked to send from a ring, if the ring has a socket. -/
def notified (r : Ring) (h : Host) : Host :=
  match r.socket with
  | none => h
  | some socket => ((flush socket.id).run h).2

/-- How asking the kernel to send from a ring goes; a ring without a socket has nobody to ask. -/
def told (r : Ring) (h : Host) : Except LinkError Unit :=
  match r.socket with
  | none => .ok ()
  | some socket => ((flush socket.id).run h).1.mapError (.transport "tx ring flush")

theorem isQueued_told (r : Ring) (h : Host) : isQueued (r.told h) = true := by
  unfold told
  cases r.socket with
  | none => rfl
  | some socket =>
    dsimp only
    cases ((flush socket.id).run h).1 <;> rfl

/-- A frame that is not refused is put into the slot, and the answer is how asking the kernel to
send it went. -/
theorem submitWrite_run_told {slot : Slot} {frame : Bytes}
    (hr : r.submitRefusal? slot frame = none) (h : Host) :
    let filled := h.onMemory r.mapping fun m => fill m slot.index frame
    (r.submitWrite slot frame).run h = ((r.told filled, r.advance), r.notified filled) := by
  unfold submitWrite told notified
  simp only [hr, run_bind, updateMemory_run]
  cases r.socket with
  | none => rfl
  | some socket =>
    simp only [run_bind]
    generalize (flush socket.id).run _ = flushed
    obtain ⟨outcome, h'⟩ := flushed
    cases outcome <;> rfl

theorem submitWrite_run {slot : Slot} {frame : Bytes}
    (hr : r.submitRefusal? slot frame = none) (h : Host) :
    ∃ answer, isQueued answer = true ∧ (r.submitWrite slot frame).run h = ((answer, r.advance),
      r.notified (h.onMemory r.mapping fun m => fill m slot.index frame)) :=
  ⟨_, isQueued_told r _, submitWrite_run_told hr h⟩

/-- If asking fails nothing has become of the ring. -/
theorem rings_notified {e : LinkError} {h : Host} (he : r.told h = .error e) :
    (r.notified h).rings = h.rings := by
  unfold told at he
  unfold notified
  cases hs : r.socket with
  | none => rfl
  | some socket =>
    rw [hs] at he
    dsimp only at he ⊢
    cases hf : ((flush socket.id).run h).1 with
    | ok =>
      rw [hf] at he
      cases he
    | error cause => exact flush_error hf

/-- Asking fails with the cause that the call has. -/
theorem told_error {e : LinkError} {h : Host} (he : r.told h = .error e) :
    ∃ cause, e = .transport "tx ring flush" cause := by
  unfold told at he
  split at he
  · cases he
  · generalize ((flush _).run h).1 = outcome at he
    cases outcome with
    | ok => cases he
    | error cause =>
      cases he
      exact ⟨cause, rfl⟩

/-! ## Filled slots -/

variable {i j : Nat} {frame : Bytes}

@[simp] theorem count_fill (m : SlotMemory) (i : Nat) (frame : Bytes) :
    (fill m i frame).count = m.count := by
  simp [fill]

@[simp] theorem length_slot_fill (m : SlotMemory) (i j : Nat) (frame : Bytes) :
    ((fill m i frame).slot j).length = (m.slot j).length := by
  simp [fill]

theorem slot_fill_of_ne (h : i ≠ j) (m : SlotMemory) (frame : Bytes) :
    (fill m i frame).slot j = m.slot j := by
  rw [fill, slot_setStatus_of_ne _ h, slot_setWord_of_ne _ h, slot_write_of_ne _ h]

/-- The word that hands a slot over fits into its first byte. -/
theorem status_fill (h : 0 < (m.slot i).length) (frame : Bytes) :
    (fill m i frame).status i = sendRequest := by
  rw [fill, status_setStatus_min]
  refine Nat.mod_eq_of_lt (Nat.one_lt_pow ?_ (by decide))
  simp only [length_slot_setWord, length_slot_write]
  omega

/-- A frame that fits into its slot is what the slot holds for sending, whatever was there. -/
theorem queued_fill (h : sendOffset + frame.length ≤ (m.slot i).length)
    (hl : frame.length < Nat.pow 256 4) : (fill m i frame).queued i = frame := by
  unfold sendOffset at h
  have hw : (fill m i frame).wireLength i = frame.length := by
    rw [fill, wireLength, setStatus, word_setWord_of_disjoint _ _ (by omega),
      word_setWord _ _ (by simp; omega)]
    exact Nat.mod_eq_of_lt hl
  rw [queued, hw, fill, setStatus, setWord, read_write_of_disjoint _ (by simp [sendOffset]),
    setWord, read_write_of_disjoint _ (by simp [sendOffset])]
  exact read_write_self m i sendOffset frame h

/-! ## Rings as they are made -/

/-- A ring as it is made: all slots are zeroed and nothing is claimed. -/
structure Blank (r : Ring) (h : Host) : Prop where
  frames : isFrameCount r.capacity = true
  cursor : r.cursor = 0
  claimed : r.claimed = false
  mapping : ∃ k, h.mappings[r.mapping.number]? = some k ∧
    k.memory = .zeroed r.capacity r.slotSize ∧ k.nextSend = 0

/-- A ring as it is made. The size of a slot fits into the four bytes that the request for a ring
has for it. -/
structure Fresh (r : Ring) (h : Host) : Prop extends Blank r h where
  slotSize : r.slotSize < Nat.pow 256 4

theorem Blank.capacity_pos {r : Ring} {h : Host} (hf : r.Blank h) : 0 < r.capacity := by
  have := hf.frames
  simp only [isFrameCount, Bool.and_eq_true, decide_eq_true_eq] at this
  omega

theorem Blank.memory {r : Ring} {h : Host} (hf : r.Blank h) :
    r.memory h = .zeroed r.capacity r.slotSize := by
  obtain ⟨k, hk, hm, -⟩ := hf.mapping
  exact (memoryOf_eq hk).trans hm

/-- The smallest ring there is, with slots of 128 bytes, on a host with nothing else. -/
def pair (d : RingDirection) (socket : Option PacketSocket) : Ring :=
  ⟨⟨0⟩, d, 128, 2, 0, false, socket, 0⟩

/-- The host of the smallest ring. -/
def pairHost (d : RingDirection) (socket : Option PacketSocket) (script : Script) : Host :=
  { script, mappings := #[⟨socket.map (·.id), d, .zeroed 2 128, true, 0⟩] }

theorem pair_fresh (d : RingDirection) (socket : Option PacketSocket) (script : Script) :
    (pair d socket).Fresh (pairHost d socket script) :=
  ⟨⟨(by decide : isFrameCount 2 = true), rfl, rfl, _, rfl, rfl, rfl⟩,
    (by decide : 128 < Nat.pow 256 4)⟩

/-- The ring that mapping slots makes. -/
theorem mapSlots_ok {socket : Option PacketSocket} {d : RingDirection} {frames : Nat} {r : Ring}
    {h h' : Host} (hr : (mapSlots socket d frames).run h = (.ok r, h')) :
    ∃ id, r = ⟨id, d, h.pageSize, frames, 0, false, socket, 0⟩ := by
  rw [mapSlots, run_bind, run_get, run_bind] at hr
  generalize (Host.map (socket.map (·.id)) d frames).run h = mapped at hr
  obtain ⟨outcome, h₁⟩ := mapped
  cases outcome with
  | error e => cases (Prod.mk.inj hr).1
  | ok id =>
    cases (Prod.mk.inj hr).1
    exact ⟨id, rfl⟩

theorem mapSlots_blank {socket : Option PacketSocket} {d : RingDirection} {frames : Nat} {r : Ring}
    {h h' : Host} (hc : isFrameCount frames = true)
    (hr : (mapSlots socket d frames).run h = (.ok r, h')) :
    r.Blank h' ∧ r.direction = d ∧ r.capacity = frames ∧ r.socket = socket ∧
      r.slotSize = h.pageSize := by
  rw [mapSlots, run_bind, run_get, run_bind] at hr
  cases hm : (Host.map (socket.map (·.id)) d frames).run h with
  | mk outcome h₁ =>
    rw [hm] at hr
    cases outcome with
    | error e => cases (Prod.mk.inj hr).1
    | ok id =>
      obtain ⟨hok, rfl⟩ := Prod.mk.inj hr
      cases hok
      obtain ⟨rfl, -, hmap⟩ := map_ok hm
      have hk : h₁.mappings[h.mappings.size]? = some
          { owner := socket.map (·.id), direction := d, memory := .zeroed frames h.pageSize,
            active := true, nextSend := 0 } := by rw [hmap]; simp
      exact ⟨⟨hc, rfl, rfl, _, hk, rfl, rfl⟩, rfl, rfl, rfl, rfl⟩

/-- A ring without a socket is made by mapping slots. -/
theorem anonymous?_ok {d : RingDirection} {frames : Nat} {r : Ring} {h h' : Host}
    (hr : (anonymous? d frames).run h = (.ok r, h')) :
    isFrameCount frames = true ∧ (mapSlots none d frames).run h = (.ok r, h') := by
  by_cases hc : isFrameCount frames
  · simp only [anonymous?, validFrames, hc, if_true] at hr
    exact ⟨hc, hr⟩
  · simp only [anonymous?, validFrames, hc] at hr
    cases (Prod.mk.inj hr).1

/-- A ring without a socket is fresh when it is made. -/
theorem anonymous?_fresh {d : RingDirection} {frames : Nat} {r : Ring} {h h' : Host}
    (hp : h.pageSize < Nat.pow 256 4) (hr : (anonymous? d frames).run h = (.ok r, h')) :
    r.Fresh h' ∧ r.direction = d ∧ r.capacity = frames ∧ r.socket = none ∧
      r.slotSize = h.pageSize := by
  obtain ⟨hc, hmap⟩ := anonymous?_ok hr
  obtain ⟨hb, hd, hn, hs, hsize⟩ := mapSlots_blank hc hmap
  exact ⟨⟨hb, hsize ▸ hp⟩, hd, hn, hs, hsize⟩

/-- A ring of a socket is made by mapping slots after calls that no ring can tell. -/
theorem open?_ok {socket : PacketSocket} {d : RingDirection} {frames : Nat} {r : Ring}
    {h h' : Host} (hr : (open? socket d frames).run h = (.ok r, h')) :
    isFrameCount frames = true ∧ ∃ h₁, h₁.rings = h.rings ∧
      (mapSlots (some socket) d frames).run h₁ = (.ok r, h') := by
  by_cases hc : isFrameCount frames
  · simp only [open?, validFrames, hc, if_true, run_bind, run_get] at hr
    split at hr
    · cases (Prod.mk.inj hr).1
    · rw [run_bind] at hr
      split at hr
      · cases (Prod.mk.inj hr).1
      · exact ⟨hc, _, (setOption_keeps _ _ _ _).trans (setOption_keeps _ _ _ _), hr⟩
  · simp only [open?, validFrames, hc] at hr
    cases (Prod.mk.inj hr).1

/-- The ring of a socket is fresh when it is made. -/
theorem open?_fresh {socket : PacketSocket} {d : RingDirection} {frames : Nat} {r : Ring}
    {h h' : Host} (hp : h.pageSize < Nat.pow 256 4)
    (hr : (open? socket d frames).run h = (.ok r, h')) :
    r.Fresh h' ∧ r.direction = d ∧ r.capacity = frames ∧ r.socket = some socket ∧
      r.slotSize = h.pageSize := by
  obtain ⟨hc, h₁, hrings, hmap⟩ := open?_ok hr
  obtain ⟨hb, hd, hn, hs, hsize⟩ := mapSlots_blank hc hmap
  rw [pageSize_congr (congrArg Rings.script hrings)] at hsize
  exact ⟨⟨hb, hsize ▸ hp⟩, hd, hn, hs, hsize⟩

/-- A ring that was just made, for a socket or without one. -/
inductive Made (d : RingDirection) (r : Ring) (h : Host) : Prop where
  | attached {socket : PacketSocket} {frames : Nat} {h₀ : Host}
    (hr : (open? socket d frames).run h₀ = (.ok r, h))
  | anonymous {frames : Nat} {h₀ : Host} (hr : (anonymous? d frames).run h₀ = (.ok r, h))

namespace Made

variable {d : RingDirection} {r : Ring} {h : Host}

/-- However a ring is made, its slots are mapped last. -/
theorem mapped (hm : Made d r h) : ∃ socket frames h₁, isFrameCount frames = true ∧
    (mapSlots socket d frames).run h₁ = (.ok r, h) := by
  cases hm with
  | attached hr =>
    obtain ⟨hc, h₁, -, hmap⟩ := open?_ok hr
    exact ⟨_, _, h₁, hc, hmap⟩
  | anonymous hr =>
    obtain ⟨hc, hmap⟩ := anonymous?_ok hr
    exact ⟨_, _, _, hc, hmap⟩

theorem blank (hm : Made d r h) : r.Blank h := by
  obtain ⟨socket, frames, h₁, hc, hmap⟩ := hm.mapped
  exact (mapSlots_blank hc hmap).1

theorem direction (hm : Made d r h) : r.direction = d := by
  obtain ⟨socket, frames, h₁, hc, hmap⟩ := hm.mapped
  exact (mapSlots_blank hc hmap).2.1

theorem lossReports (hm : Made d r h) : r.lossReports = 0 := by
  obtain ⟨socket, frames, h₁, -, hmap⟩ := hm.mapped
  obtain ⟨id, rfl⟩ := mapSlots_ok hmap
  rfl

theorem slotSize_pos (hm : Made d r h) : 0 < r.slotSize := by
  obtain ⟨socket, frames, h₁, -, hmap⟩ := hm.mapped
  obtain ⟨id, rfl⟩ := mapSlots_ok hmap
  exact h₁.pageSize_pos

end Made

/-- The host on which the smallest ring was made for the first socket. -/
def madeHost (d : RingDirection) (script : Script) : Host :=
  ((open? ⟨⟨0⟩⟩ d 2).run (.ofScript script)).2

theorem pair_made {d : RingDirection} {script : Script}
    (hr : ((open? ⟨⟨0⟩⟩ d 2).run (.ofScript script)).1 = .ok (pair d (some ⟨⟨0⟩⟩))) :
    Made d (pair d (some ⟨⟨0⟩⟩)) (madeHost d script) := .attached (Prod.ext hr rfl)

/-! ## Rings in use -/

/-- The kernel takes frames from this ring and from no other when it is asked to send from the
socket of the ring. -/
def InUse (r : Ring) (h : Host) : Prop :=
  ∀ socket, r.socket = some socket → ∀ id, h.activeMapping? socket.id .send = some id →
    id = r.mapping

theorem InUse.congr {r r' : Ring} {h h' : Host} (hu : r.InUse h) (hs : r'.socket = r.socket)
    (hm : r'.mapping = r.mapping)
    (ha : ∀ s, h'.activeMapping? s .send = h.activeMapping? s .send) : r'.InUse h' := by
  intro socket hsocket id hid
  rw [ha] at hid
  exact (hu socket (hs ▸ hsocket) id hid).trans hm.symm

theorem mapSlots_inUse {socket : PacketSocket} {frames : Nat} {r : Ring} {h h' : Host}
    (hn : h.activeMapping? socket.id .send = none)
    (hr : (mapSlots (some socket) .send frames).run h = (.ok r, h')) : r.InUse h' := by
  rw [mapSlots, run_bind, run_get, run_bind] at hr
  cases hm : (Host.map (some socket.id) .send frames).run h with
  | mk outcome h₁ =>
    rw [Option.map_some, hm] at hr
    cases outcome with
    | error e => cases (Prod.mk.inj hr).1
    | ok id =>
      obtain ⟨hok, rfl⟩ := Prod.mk.inj hr
      cases hok
      obtain ⟨rfl, -, hmap⟩ := map_ok hm
      intro socket' hs id hid
      cases hs
      -- The new mapping is the first one in use of the socket.
      simp only [activeMapping?, Option.map_eq_none_iff] at hn
      simp only [activeMapping?, hmap, Array.findIdx?_push, hn] at hid
      simpa using hid.symm

/-- A ring that is made for a socket without a ring for sending is in use. -/
theorem open?_inUse {socket : PacketSocket} {frames : Nat} {r : Ring} {h h' : Host}
    (hn : h.activeMapping? socket.id .send = none)
    (hr : (open? socket .send frames).run h = (.ok r, h')) : r.InUse h' := by
  obtain ⟨-, h₁, hkeep, hmap⟩ := open?_ok hr
  have hm : h₁.mappings = h.mappings := congrArg Rings.mappings hkeep
  refine mapSlots_inUse ?_ hmap
  rw [← hn]
  simp only [activeMapping?, hm]

theorem pair_inUse (socket : Option PacketSocket) (script : Script) :
    (pair .send socket).InUse (pairHost .send socket script) := by
  intro socket' hs id hid
  cases hs
  simp only [activeMapping?, pairHost, Option.map_some, List.findIdx?_toArray, List.findIdx?_cons,
    decide_true, Bool.and_self, if_true, Option.some.injEq] at hid
  exact hid.symm

end PacketLink.Ring
