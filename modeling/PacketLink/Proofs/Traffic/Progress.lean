import PacketLink.Proofs.Reactor.Surroundings
import PacketLink.Proofs.Ring.Usage
import PacketLink.Proofs.Traffic.Agreement

/-!
# Receivers go on whatever the kernel writes

The kernel may write anything into the slots of a ring between two turns of a receiver, frames or
not.

* `Ring.capture`: the extent of the frame in the slot at the cursor, cut to the slot.
* `Receiver.Progresses`: one turn either finds that the slot at the cursor is not handed over and
  changes nothing, or hands it back, moves on by one slot, and answers for what was in it. The
  answer never is that the ring is lost.
* `Receiver.Run`: turns with anything written in between, with the number of those that found a
  slot handed over.
* `receiver_progress`: every turn progresses, and the cursor is that number modulo the capacity.
-/

namespace PacketLink

open Host Reactor SlotMemory

namespace Ring

/-- The number of bytes of its frame that the slot at the cursor holds, whatever its header says. -/
def capture (r : Ring) (m : SlotMemory) : Nat :=
  min (m.snapLength r.cursor) (r.slotSize - min (m.frameOffset r.cursor) r.slotSize)

/-- The bytes of that frame. -/
def captured (r : Ring) (m : SlotMemory) : Bytes :=
  m.read r.cursor (min (m.frameOffset r.cursor) r.slotSize) (r.capture m)

variable {r : Ring} {m : SlotMemory} {h : Host}

theorem length_captured (hl : (m.slot r.cursor).length = r.slotSize) :
    (r.captured m).length = r.capture m := by
  simp only [captured, SlotMemory.read, List.length_take, List.length_drop, hl, capture]
  omega

theorem afterAcquire_eq {slot : Slot} (hs : r.readSlot? m = some slot) : r.afterAcquire m =
    { r with claimed := true, lossReports := (r.afterAcquire m).lossReports } := by
  simp only [afterAcquire, hs]

theorem rings_onMemory {h h' : Host} (hr : h'.rings = h.rings) (id : MappingId)
    (change : SlotMemory → SlotMemory) :
    (h'.onMemory id change).rings = (h.onMemory id change).rings :=
  congrArg (fun k : Rings => { k with
    mappings := k.mappings.modify id.number fun k => { k with memory := change k.memory } }) hr

/-- The ring when the slot at the cursor was claimed and handed back. -/
def handedBack (r : Ring) (m : SlotMemory) : Ring :=
  { r with claimed := false, lossReports := (r.afterAcquire m).lossReports }.advance

theorem releaseRead_afterAcquire {slot : Slot} (hs : r.readSlot? m = some slot) (h : Host) :
    (r.afterAcquire m).releaseRead.run h = ((.ok (), r.handedBack m),
      h.onMemory r.mapping fun m => m.setStatus r.cursor free) := by
  rw [releaseRead_run (by rw [afterAcquire_eq hs])]
  simp only [handedBack, afterAcquire, hs]

end Ring

namespace Receiver

open PacketLink.Ring

variable {kind : FrameKind} {r : Ring} {h : Host}

/-- What the slot at the cursor reads as. -/
def slotReading (kind : FrameKind) (r : Ring) (m : SlotMemory) : Except LinkError Frame :=
  if isCopy (m.status r.cursor) then
    .error (.partialDelivery r.cursor (r.capture m) (m.wireLength r.cursor))
  else (Frame.decode kind (r.captured m) (m.wireLength r.cursor)).mapError .frame

/-- The slot that is claimed is read, and nothing but the log changes. -/
theorem readSlot_claimed {slot : Slot} {h₁ : Host} (hs : r.readSlot? (r.memory h) = some slot)
    (hm : h₁.mappings = h.mappings) (kind : FrameKind) : ∃ log,
      (readSlot (r.afterAcquire (r.memory h)) slot kind).run h₁ =
        (slotReading kind r (r.memory h), { h₁ with log }) := by
  obtain ⟨-, hi, ht, ho, hb, hw⟩ := readSlot?_eq_some hs
  have hafter := afterAcquire_eq hs
  have hmem : (r.afterAcquire (r.memory h)).memory h₁ = r.memory h := by
    rw [hafter]
    exact memoryOf_congr hm r.mapping
  have hb' : slot.frameBytes = r.capture (r.memory h) := by rw [hb, ho, capture]
  unfold readSlot slotReading
  cases hcopy : isCopy ((r.memory h).status r.cursor) with
  | true =>
    rw [if_pos (by rw [ht, hcopy]; rfl), if_pos rfl, hi, hb', hw]
    exact ⟨_, rfl⟩
  | false =>
    obtain ⟨log, hdecode⟩ :=
      decodeCapture_run kind (r.captured (r.memory h)) ((r.memory h).wireLength r.cursor) h₁
    have hpay : (r.afterAcquire (r.memory h)).payload (r.memory h) slot =
        .ok (r.captured (r.memory h)) := by
      rw [payload_eq_ok (by rw [hafter]) (by rw [hafter]; exact hi), hi, ho, hb', captured]
    refine ⟨log, ?_⟩
    rw [if_neg (by rw [ht, hcopy]; exact nofun), if_neg Bool.false_ne_true, run_bind, run_get,
      hmem, hpay, hw]
    exact hdecode

/-- A slot that was handed over goes back to the kernel, and what it holds is read before. -/
theorem takeFromRing_user (hd : r.direction = .receive)
    (hu : isUser ((r.memory h).status r.cursor) = true) (kind : FrameKind) :
    ∃ h', (takeFromRing r kind).run h =
        (((slotReading kind r (r.memory h)).map some, r.handedBack (r.memory h)), h') ∧
      h'.rings = (h.onMemory r.mapping fun m => m.setStatus r.cursor free).rings := by
  obtain ⟨slot, hs⟩ : ∃ slot, r.readSlot? (r.memory h) = some slot :=
    Option.ne_none_iff_exists'.mp fun hn => readSlot?_eq_none_iff.mp hn hu
  obtain ⟨h₁, hacquire, hrings⟩ := acquireRead_run hd h
  obtain ⟨log, hread⟩ := readSlot_claimed hs (congrArg Rings.mappings hrings) kind
  have hrelease := releaseRead_afterAcquire hs { h₁ with log }
  rw [hs] at hacquire
  have hrings' : ({ h₁ with log } : Host).rings = h.rings := hrings
  refine ⟨_, ?_, rings_onMemory hrings' _ _⟩
  rw [takeFromRing, run_bind, hacquire]
  simp only [run_bind, hread, hrelease]
  rfl

/-- A slot that was not handed over is left alone. -/
theorem takeFromRing_free (hd : r.direction = .receive)
    (hu : ¬ isUser ((r.memory h).status r.cursor) = true) (kind : FrameKind) :
    (takeFromRing r kind).run h = ((.ok none, r), h) := by
  have hacquire : r.acquireRead.run h = ((.ok none, r), h) := by
    unfold acquireRead
    simp only [hd, run_bind, run_get, readSlot?_eq_none_iff.mpr hu, run_pure]
  rw [takeFromRing, run_bind, hacquire]
  rfl

/-! ## What a turn answers -/

/-- What the slot at the cursor obliges a receiver to answer. -/
def due (kind : FrameKind) (r : Ring) (m : SlotMemory) : Except LinkError Dispatch :=
  if ¬ isUser (m.status r.cursor) then .ok .idle
  else if isCopy (m.status r.cursor) then
    .error (.partialDelivery r.cursor (r.capture m) (m.wireLength r.cursor))
  else if r.capture m < kind.headerLength then
    .error (.frame (.truncated kind kind.headerLength (r.capture m)))
  else .ok .handled

variable {m : SlotMemory}

theorem due_eq_idle_iff : due kind r m = .ok .idle ↔ ¬ isUser (m.status r.cursor) := by
  unfold due
  grind

theorem due_eq_partial_iff : due kind r m =
      .error (.partialDelivery r.cursor (r.capture m) (m.wireLength r.cursor)) ↔
    isUser (m.status r.cursor) ∧ isCopy (m.status r.cursor) := by
  unfold due
  grind

theorem due_eq_truncated_iff : due kind r m =
      .error (.frame (.truncated kind kind.headerLength (r.capture m))) ↔
    isUser (m.status r.cursor) ∧ ¬ isCopy (m.status r.cursor) ∧
      r.capture m < kind.headerLength := by
  unfold due
  grind

theorem due_eq_handled_iff : due kind r m = .ok .handled ↔
    isUser (m.status r.cursor) ∧ ¬ isCopy (m.status r.cursor) ∧
      kind.headerLength ≤ r.capture m := by
  unfold due
  grind

/-- No slot says that the ring is lost. -/
theorem isResource_due {e : LinkError} (he : due kind r m = .error e) : e.isResource = false := by
  unfold due at he
  grind [LinkError.isResource]

/-- A slot that was handed over reads as a frame or as what makes it bad, and the answer is that. -/
theorem slotReading_eq (hl : (m.slot r.cursor).length = r.slotSize)
    (hu : isUser (m.status r.cursor) = true) (kind : FrameKind) :
    (∃ f, slotReading kind r m = .ok f ∧ due kind r m = .ok .handled) ∨
    (∃ e, slotReading kind r m = .error e ∧ due kind r m = .error e) := by
  unfold slotReading due
  rw [if_neg (not_not_intro hu)]
  by_cases hcopy : isCopy (m.status r.cursor) = true
  · rw [if_pos hcopy, if_pos hcopy]
    exact .inr ⟨_, rfl, rfl⟩
  · rw [if_neg hcopy, if_neg hcopy]
    by_cases hlt : r.capture m < kind.headerLength
    · rw [if_pos hlt, Frame.decode_of_lt (by rwa [length_captured hl]), length_captured hl]
      exact .inr ⟨_, rfl, rfl⟩
    · rw [if_neg hlt, Frame.decode_of_le (by rw [length_captured hl]; omega)]
      exact .inl ⟨_, rfl, rfl⟩

/-! ## One turn -/

variable {x : Receiver}

theorem onReady_free (hc : x.channel = .ring r) (hd : r.direction = .receive)
    (hu : ¬ isUser ((r.memory h).status r.cursor) = true) :
    x.onReady.run h = ((.ok .idle, x), h) := by
  have htake := take_ring_run hc (takeFromRing_free hd hu x.kind)
  rw [← hc] at htake
  exact (onReady_run_none htake rfl).1

theorem onReady_user (hc : x.channel = .ring r) (hd : r.direction = .receive) (hb : r.Backed h)
    (hu : isUser ((r.memory h).status r.cursor) = true) :
    ∃ h', x.onReady.run h =
        ((due x.kind r (r.memory h),
          { x with
            channel := .ring (r.handedBack (r.memory h))
            received := x.received + readBy (due x.kind r (r.memory h)) }), h') ∧
      h'.rings = (h.onMemory r.mapping fun m => m.setStatus r.cursor free).rings := by
  obtain ⟨h₁, hring, hrings⟩ := takeFromRing_user hd hu x.kind
  have htake := take_ring_run hc hring
  obtain ⟨f, hs, hdue⟩ | ⟨e, hs, hdue⟩ := slotReading_eq hb.length_cursor hu x.kind
  · rw [hs] at htake
    refine ⟨((Host.report (report (x.received + 1) f)).run h₁).2, ?_, hrings⟩
    rw [onReady, run_bind, htake, hdue]
    rfl
  · rw [hs] at htake
    refine ⟨h₁, ?_, hrings⟩
    rw [onReady, run_bind, htake, hdue]
    rfl

/-- What one turn of a receiver on a ring does, whatever the slot at the cursor holds. -/
structure Progresses (x : Receiver) (r : Ring) (h : Host) : Prop where
  idle_iff : (x.onReady.run h).1.1 = .ok .idle ↔ ¬ isUser ((r.memory h).status r.cursor)
  /-- Without a slot that was handed over nothing changes. -/
  idle : ¬ isUser ((r.memory h).status r.cursor) → x.onReady.run h = ((.ok .idle, x), h)
  /-- A slot that was handed over goes back to the kernel. -/
  stores : isUser ((r.memory h).status r.cursor) →
    r.memory (x.onReady.run h).2 = (r.memory h).setStatus r.cursor free
  /-- Nothing else is written, in this ring or in another. -/
  rings : isUser ((r.memory h).status r.cursor) → (x.onReady.run h).2.rings =
    (h.onMemory r.mapping fun m => m.setStatus r.cursor free).rings
  /-- The cursor moves on by one slot. -/
  moves : isUser ((r.memory h).status r.cursor) → ∃ lossReports,
    (x.onReady.run h).1.2.channel = .ring { r with
      cursor := (r.cursor + 1) % r.capacity, claimed := false, lossReports }
  partial_iff : (x.onReady.run h).1.1 =
      .error (.partialDelivery r.cursor (r.capture (r.memory h))
        ((r.memory h).wireLength r.cursor)) ↔
    isUser ((r.memory h).status r.cursor) ∧ isCopy ((r.memory h).status r.cursor)
  truncated_iff : (x.onReady.run h).1.1 =
      .error (.frame (.truncated x.kind x.kind.headerLength (r.capture (r.memory h)))) ↔
    isUser ((r.memory h).status r.cursor) ∧ ¬ isCopy ((r.memory h).status r.cursor) ∧
      r.capture (r.memory h) < x.kind.headerLength
  handled_iff : (x.onReady.run h).1.1 = .ok .handled ↔
    isUser ((r.memory h).status r.cursor) ∧ ¬ isCopy ((r.memory h).status r.cursor) ∧
      x.kind.headerLength ≤ r.capture (r.memory h)
  /-- One more frame is counted if the answer is that one was handled, and none otherwise. -/
  received : (x.onReady.run h).1.2.received = x.received + readBy (x.onReady.run h).1.1
  not_resource : ∀ e, (x.onReady.run h).1.1 = .error e → e.isResource = false

theorem memory_handedBack {h' : Host} (hc : r.cursor < (r.memory h).count)
    (hr : h'.rings = (h.onMemory r.mapping fun m => m.setStatus r.cursor free).rings) :
    r.memory h' = (r.memory h).setStatus r.cursor free := by
  obtain ⟨k, hk⟩ := exists_mapping (Nat.zero_lt_of_lt hc)
  exact (memoryOf_congr (congrArg Rings.mappings hr) _).trans (memoryOf_onMemory hk _)

theorem onReady_answer (hc : x.channel = .ring r) (hd : r.direction = .receive)
    (hb : r.Backed h) : (x.onReady.run h).1.1 = due x.kind r (r.memory h) := by
  by_cases hu : isUser ((r.memory h).status r.cursor) = true
  · obtain ⟨h', hrun, -⟩ := onReady_user hc hd hb hu
    rw [hrun]
  · rw [onReady_free hc hd hu]
    exact (due_eq_idle_iff.mpr hu).symm

theorem onReady_received (hc : x.channel = .ring r) (hd : r.direction = .receive)
    (hb : r.Backed h) :
    (x.onReady.run h).1.2.received = x.received + readBy (x.onReady.run h).1.1 := by
  by_cases hu : isUser ((r.memory h).status r.cursor) = true
  · obtain ⟨h', hrun, -⟩ := onReady_user hc hd hb hu
    rw [hrun]
  · rw [onReady_free hc hd hu]
    rfl

theorem progresses (hc : x.channel = .ring r) (hd : r.direction = .receive) (hb : r.Backed h) :
    Progresses x r h := by
  have hanswer := onReady_answer hc hd hb
  refine ⟨hanswer ▸ due_eq_idle_iff, onReady_free hc hd, fun hu => ?_, fun hu => ?_, fun hu => ?_,
    hanswer ▸ due_eq_partial_iff, hanswer ▸ due_eq_truncated_iff, hanswer ▸ due_eq_handled_iff,
    onReady_received hc hd hb, fun e he => isResource_due (hanswer ▸ he)⟩
  all_goals obtain ⟨h', hrun, hrings⟩ := onReady_user hc hd hb hu
  · rw [hrun]
    exact memory_handedBack hb.cursor_lt_count hrings
  · rw [hrun]
    exact hrings
  · rw [hrun]
    exact ⟨_, rfl⟩

/-! ## Runs -/

/-- Whether a turn found a slot that was handed over. -/
def busyBy : Except LinkError Dispatch → Nat
  | .ok .idle => 0
  | _ => 1

/-- What can have become of a receiver and its host after some turns that were not idle. Between
turns the kernel writes into the slots of the ring, header, status and data alike, and anything else
may change on the host. -/
inductive Run (x : Receiver) (h : Host) : Nat → Receiver → Host → Prop where
  | start : Run x h 0 x h
  | written {n : Nat} {x' : Receiver} {h' h'' : Host} (hr : Run x h n x' h')
      (hw : ∀ r, x'.channel = .ring r → (r.memory h'').shape = (r.memory h').shape) :
    Run x h n x' h''
  | called {n : Nat} {x' : Receiver} {h' : Host} (hr : Run x h n x' h') :
    Run x h (n + busyBy (x'.onReady.run h').1.1) (x'.onReady.run h').1.2 (x'.onReady.run h').2

/-- A receiver on a ring whose cursor has passed so many slots since the start. -/
structure Ahead (start : Ring) (n : Nat) (x : Receiver) (r : Ring) (h : Host) : Prop where
  channel : x.channel = .ring r
  direction : r.direction = .receive
  backed : r.Backed h
  capacity : r.capacity = start.capacity
  cursor : r.cursor = (start.cursor + n) % r.capacity

theorem Ahead.called {start : Ring} {n : Nat} (ha : Ahead start n x r h) :
    ∃ r', Ahead start (n + busyBy (x.onReady.run h).1.1) (x.onReady.run h).1.2 r'
      (x.onReady.run h).2 := by
  by_cases hu : isUser ((r.memory h).status r.cursor) = true
  · have hbusy : busyBy (due x.kind r (r.memory h)) = 1 := by
      have hne : due x.kind r (r.memory h) ≠ .ok .idle := mt due_eq_idle_iff.mp (not_not_intro hu)
      unfold busyBy
      split
      · contradiction
      · rfl
    obtain ⟨h', hrun, hrings⟩ := onReady_user ha.channel ha.direction ha.backed hu
    have hmemory := memory_handedBack ha.backed.cursor_lt_count hrings
    have hb : r.Backed h' := ha.backed.of_shape (by rw [hmemory, shape_setStatus])
    rw [hrun, hbusy]
    refine ⟨_, rfl, ha.direction, Backed.advance ⟨hb.count, hb.size, hb.cursor_lt⟩, ha.capacity, ?_⟩
    show (r.cursor + 1) % r.capacity = (start.cursor + (n + 1)) % r.capacity
    rw [ha.cursor, mod_add_one_mod, Nat.add_assoc]
  · rw [onReady_free ha.channel ha.direction hu]
    exact ⟨r, ha⟩

theorem Run.ahead {start : Ring} {n : Nat} {x' : Receiver} {h' : Host} (hr : Run x h n x' h')
    (ha : Ahead start 0 x start h) : ∃ r, Ahead start n x' r h' := by
  induction hr with
  | start => exact ⟨start, ha⟩
  | written hr hw ih =>
    obtain ⟨r, ha⟩ := ih
    exact ⟨r, ha.channel, ha.direction, ha.backed.of_shape (hw r ha.channel), ha.capacity,
      ha.cursor⟩
  | called hr ih =>
    obtain ⟨r, ha⟩ := ih
    exact ha.called

/-- However a ring for receiving was used before, a receiver that takes it over makes progress with
every turn, whatever the kernel writes in between, and is never one to be given up. The turns that
were not idle are the slots that the cursor has passed. -/
theorem receiver_progress {r₀ r : Ring} {h₀ h h' : Host} {n : Nat} {x' : Receiver}
    (hf : r₀.Fresh h₀) (hd : r₀.direction = .receive) (hu : Used r₀ h₀ r h) (kind : FrameKind)
    (hr : Run { channel := .ring r, kind } h n x' h') :
    ∃ r', x'.channel = .ring r' ∧ Progresses x' r' h' ∧
      r'.cursor = (r.cursor + n) % r'.capacity ∧ (r = r₀ → r'.cursor = n % r'.capacity) := by
  have hb := hu.backed hf.toBlank
  have hstart : Ahead r 0 { channel := .ring r, kind } r h :=
    ⟨rfl, hu.direction_eq.trans hd, hb, rfl, (Nat.mod_eq_of_lt hb.cursor_lt).symm⟩
  obtain ⟨r', ha⟩ := hr.ahead hstart
  refine ⟨r', ha.channel, progresses ha.channel ha.direction ha.backed, ha.cursor, ?_⟩
  rintro rfl
  rw [ha.cursor, hf.cursor, Nat.zero_add]

/-- The kernel hands over two slots, one with nothing in its header and one that is cut short. Of
three turns the last is idle. -/
theorem receiver_progress_pair : ∃ n x' h' r',
    Run { channel := .ring (.pair .receive none), kind := .ieee8023 }
      (Ring.pairHost .receive none {}) n x' h' ∧ n = 2 ∧ x'.received = 0 ∧
    x'.channel = .ring r' ∧ Progresses x' r' h' ∧ r'.cursor = n % r'.capacity := by
  let write (i word : Nat) (h : Host) : Host := h.onMemory ⟨0⟩ fun m => m.setStatus i word
  have hwrite (i word : Nat) (h : Host) (r : Ring) :
      (r.memory (write i word h)).shape = (r.memory h).shape :=
    Host.memory_of_modify _ (h.mappings_onMemory ..) (fun _ => shape_setStatus ..) _
  have hstart := Run.start (x := { channel := .ring (.pair .receive none), kind := .ieee8023 })
    (h := Ring.pairHost .receive none {})
  have hwritten := (hstart.written fun r _ => hwrite 0 1 _ r).written fun r _ => hwrite 1 3 _ r
  obtain ⟨r', hc, hp, -, hcursor⟩ := receiver_progress (Ring.pair_fresh .receive none {}) rfl .made
    .ieee8023 hwritten.called.called.called
  exact ⟨_, _, _, r', hwritten.called.called.called, by decide +kernel, by decide +kernel, hc, hp,
    hcursor rfl⟩

end Receiver

end PacketLink
