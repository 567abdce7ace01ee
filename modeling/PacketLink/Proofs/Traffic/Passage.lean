import PacketLink.Proofs.Traffic.Progress
import PacketLink.Proofs.Traffic.Setting

/-!
# Frames from a transmitter to a receiver

* `Transmitter.Hands`: the bytes that a turn hands to the kernel, through a socket or a ring.
* `Receiver.Finds`: a packet is the next that a receiver finds, whole, at a socket or in a ring.
* `transmit_receive`: whatever a transmitter hands over, a receiver of the same kind that finds it
  reports the test frame of the plan, for each way of sending and each way of receiving.

What is handed over are the bytes of the test frame (`Transmitter.hands_iff`), whatever was in the
slot before, and these read as the frame itself (`Frame.IsSealed.decodeWhole_encode`).
-/

namespace PacketLink

open Host PacketLink.Ring SlotMemory

/-! ## Sending -/

/-- What a call that sends puts on record is what it answers. -/
theorem Host.sendTo_record (s : SocketId) (frame : Bytes) (address : LinkAddress) (h : Host) :
    ((sendTo s frame address).run h).2.trace =
      .sendTo s frame address ((sendTo s frame address).run h).1 :: h.trace :=
  attempt_trace (Keeps.get.bind fun _ => Keeps.pure _) h

theorem Host.sendTo_trace (s : SocketId) (frame : Bytes) (address : LinkAddress) (h : Host) :
    ∃ outcome, ((sendTo s frame address).run h).2.trace =
      .sendTo s frame address outcome :: h.trace := ⟨_, sendTo_record s frame address h⟩

/-- There is room for `n` bytes in the slot at the cursor. -/
structure Ring.HasRoom (r : Ring) (n : Nat) (h : Host) : Prop where
  direction : r.direction = .send
  backed : r.Backed h
  claimable : IsClaimable (r.memory h) r.cursor
  fits : sendOffset + n ≤ r.slotSize

namespace Transmitter

variable {x : Transmitter} {h : Host} {f : Frame} {bytes : Bytes}

/-- The bytes that a turn hands to the kernel: those of the call that sends, or those that the slot
at the cursor has for sending once the ring has moved on. -/
inductive Hands (x : Transmitter) (h : Host) : Bytes → Prop where
  | socket {s : PacketSocket} {bytes : Bytes} {outcome : Outcome Nat} (hc : x.channel = .socket s)
      (ht : (x.onReady.run h).2.trace =
        .sendTo s.id bytes x.plan.destination outcome :: h.trace) : Hands x h bytes
  | ring {r : Ring} (hc : x.channel = .ring r)
      (hn : (x.onReady.run h).1.2.channel = .ring r.advance) :
    Hands x h ((r.memory (x.onReady.run h).2).queued r.cursor)

/-- A turn is a send, and what else it does changes neither the host nor the channel. -/
theorem onReady_send (hf : x.plan.frame = .ok f) (h : Host) :
    (x.onReady.run h).2 = ((x.send f.encode).run h).2 ∧
      (x.onReady.run h).1.2.channel = ((x.send f.encode).run h).1.2.channel := by
  unfold onReady
  simp only [hf, run_bind]
  generalize (x.send f.encode).run h = sent
  obtain ⟨⟨e | b, x'⟩, h'⟩ := sent
  · exact ⟨rfl, rfl⟩
  · cases b <;> exact ⟨rfl, rfl⟩

theorem send_socket {s : PacketSocket} (hc : x.channel = .socket s) (bytes : Bytes) (h : Host) :
    ((x.send bytes).run h).2 = ((sendTo s.id bytes x.plan.destination).run h).2 := by
  unfold send sendToSocket PacketSocket.send
  simp only [hc, run_bind]
  split <;> rfl

/-- A ring with room takes the bytes and moves on, whatever the kernel does when it is asked to
send. -/
theorem send_ring {r : Ring} (hc : x.channel = .ring r) (hr : r.HasRoom bytes.length h)
    (hl : bytes.length < Nat.pow 256 4) :
    ((x.send bytes).run h).1.2.channel = .ring r.advance ∧
      (r.memory ((x.send bytes).run h).2).queued r.cursor = bytes := by
  obtain ⟨slot, hw⟩ : ∃ slot, r.writeSlot? (r.memory h) = some slot :=
    Option.ne_none_iff_exists'.mp fun hn => writeSlot?_eq_none_iff.mp hn hr.claimable
  obtain ⟨-, hindex, -, hstatus, hbytes⟩ := writeSlot?_eq_some hw
  have hfits := hr.fits
  have hrefusal : r.submitRefusal? slot bytes = none :=
    (submitRefusal?_eq_none hr.direction hindex hstatus).mpr (by rw [hbytes, sendCapacity]; omega)
  obtain ⟨h₁, hrings, -, hsent⟩ := sendToRing_run hr.direction hw bytes
  obtain ⟨answer, -, hsubmit⟩ := submitWrite_run hrefusal h₁
  have hqueued : (r.memory (r.notified (h₁.onMemory r.mapping fun m =>
      fill m slot.index bytes))).queued r.cursor = bytes := by
    have hb : r.Backed h₁ := hr.backed.of_shape (memory_of_rings hrings r.mapping)
    obtain ⟨k, hk⟩ := exists_mapping (Nat.zero_lt_of_lt hb.cursor_lt_count)
    refine (@notified_memory _ (·.queued r.cursor) (fun _ _ _ => queued_setStatus ..) r
      r.mapping _).trans ?_
    rw [memoryOf_onMemory hk, hindex]
    exact queued_fill (by rw [show ((h₁.memoryOf r.mapping).slot r.cursor).length = r.slotSize
      from hb.length_cursor]; exact hfits) hl
  unfold send
  simp only [hc, run_bind, hsent hsubmit]
  exact ⟨rfl, hqueued⟩

/-- What a turn hands over is the test frame of the plan. -/
theorem hands_iff (hf : x.plan.frame = .ok f)
    (hr : ∀ r, x.channel = .ring r → r.HasRoom f.encode.length h)
    (hl : f.encode.length < Nat.pow 256 4) : x.Hands h bytes ↔ bytes = f.encode := by
  obtain ⟨hhost, hchannel⟩ := onReady_send hf h
  cases hc : x.channel with
  | socket s =>
    obtain ⟨outcome, htrace⟩ := sendTo_trace s.id f.encode x.plan.destination h
    rw [← send_socket hc, ← hhost] at htrace
    constructor
    · rintro (⟨hc', ht⟩ | ⟨hc', -⟩)
      · cases hc.symm.trans hc'
        rw [htrace] at ht
        cases ht
        rfl
      · cases hc.symm.trans hc'
    · rintro rfl
      exact .socket hc htrace
  | ring r =>
    obtain ⟨hnext, hqueued⟩ := send_ring hc (hr r hc) hl
    rw [← hchannel] at hnext
    rw [← hhost] at hqueued
    constructor
    · rintro (⟨hc', -⟩ | ⟨hc', -⟩)
      · cases hc.symm.trans hc'
      · cases hc.symm.trans hc'
        exact hqueued
    · rintro rfl
      have hhands := Hands.ring hc hnext
      rwa [hqueued] at hhands

end Transmitter

/-! ## Receiving -/

namespace Receiver

variable {y : Receiver} {h : Host} {packet : Bytes}

/-- A packet that was delivered whole is the next that a receiver finds. -/
inductive Finds (y : Receiver) (h : Host) (packet : Bytes) : Prop where
  | socket {s : PacketSocket} {packets : List Bytes} (hc : y.channel = .socket s)
      (hb : y.buffer.length = y.kind.maxLength) (hn : h.Next s.id packet packets)
  | ring {r : Ring} (hc : y.channel = .ring r) (hd : r.direction = .receive)
      (hs : Shows r.slotSize (r.memory h) r.cursor (.whole packet))

theorem slotReading_shows {r : Ring} {m : SlotMemory}
    (hs : Shows r.slotSize m r.cursor (.whole packet)) (kind : FrameKind) :
    slotReading kind r m = read kind packet := by
  have hinside : m.frameOffset r.cursor + packet.length ≤ r.slotSize := hs.inside
  have hcopy : ¬ isCopy (m.status r.cursor) = true := by
    rw [hs.cut]
    exact nofun
  have hcapture : r.capture m = packet.length := by
    rw [capture, hs.captured]
    show min packet.length _ = packet.length
    omega
  have hcaptured : r.captured m = packet := by
    rw [captured, hcapture, Nat.min_eq_left (by omega)]
    exact hs.data
  rw [slotReading, if_neg hcopy, hcaptured, hs.wireLength]
  rfl

/-- A receiver reads the packet that it finds. -/
theorem Finds.turn_eq (hy : y.Finds h packet) :
    y.turn h = .ofPacket y.kind y.received packet := by
  cases hy with
  | socket hc hb hn =>
    obtain ⟨buffer', h', htake, -⟩ := takeFromSocket_run hn hb
    obtain ⟨log, -, hturn⟩ := onReady_run (take_socket_run hc htake) rfl
    exact hturn
  | ring hc hd hs =>
    obtain ⟨h', htake, -⟩ := takeFromRing_user hd hs.user y.kind
    rw [slotReading_shows hs] at htake
    obtain ⟨log, -, hturn⟩ := onReady_run (take_ring_run hc htake) rfl
    exact hturn

/-- A packet that the kernel puts into the slot at the cursor is found there. -/
theorem finds_deliver {r : Ring} (hc : y.channel = .ring r) (hd : r.direction = .receive)
    (hb : r.Backed h) (hfits : Fits r.slotSize (.whole packet)) :
    y.Finds (h.onMemory r.mapping fun m => m.deliver r.cursor (.whole packet)) packet := by
  obtain ⟨k, hk⟩ := exists_mapping (Nat.zero_lt_of_lt hb.cursor_lt_count)
  have hshows := shows_deliver hfits hb.length_cursor
  rw [Capture.ofDelivery_whole] at hshows
  refine .ring hc hd ?_
  rw [memory, memoryOf_onMemory hk]
  exact hshows

/-- A packet that arrives where nothing waits is found by a receiver whose buffer is as it was made
to be. -/
theorem finds_enqueue {s : PacketSocket} (hc : y.channel = .socket s)
    (hb : y.buffer.length = y.kind.maxLength) (hs : s.id.number < h.sockets.size)
    (ho : h.Offers s.id []) (packet : Bytes) : y.Finds ((enqueue s.id packet).run h).2 packet :=
  .socket hc hb (ho.join (joins_enqueue hs packet)).next

end Receiver

/-! ## From one to the other -/

/-- Whatever a transmitter hands to the kernel is, once it is delivered whole, the test frame of its
plan to any receiver of the same kind. The transmitter sends through a socket, or a ring with room
in the slot at its cursor; the receiver finds it at a socket or in a ring. -/
theorem transmit_receive {x : Transmitter} {h : Host}
    (hn : x.plan.payloadLength ≤ x.plan.kind.maxPayload)
    (hr : ∀ r, x.channel = .ring r →
      r.HasRoom (x.plan.kind.headerLength + x.plan.payloadLength) h) :
    ∃ f, x.plan.frame = .ok f ∧
      f.IsTest x.plan.kind x.plan.source x.plan.sap x.plan.payloadLength ∧ f.isPartial = false ∧
      (∃ bytes, x.Hands h bytes) ∧
      ∀ bytes, x.Hands h bytes → ∀ (y : Receiver) (h' : Host), y.kind = x.plan.kind →
        y.Finds h' bytes → y.turn h' = ⟨.ok (some f), .ok .handled, y.received + 1,
          some (Receiver.report (y.received + 1) f)⟩ := by
  obtain ⟨f, hf, htest⟩ := Frame.synthetic_eq_ok hn x.plan.source x.plan.sap
  have hlength := htest.length_encode
  have hmax := x.plan.kind.maxPayload_le
  have hheader : x.plan.kind.headerLength ≤ 14 := by cases x.plan.kind <;> decide
  have hhands (bytes : Bytes) : x.Hands h bytes ↔ bytes = f.encode :=
    Transmitter.hands_iff hf (hlength ▸ hr) (Nat.lt_of_le_of_lt (by omega : _ ≤ 8192) (by decide))
  refine ⟨f, hf, htest, htest.isPartial, ⟨_, (hhands _).mpr rfl⟩, ?_⟩
  intro bytes hb y h' hkind hfinds
  obtain rfl := (hhands bytes).mp hb
  have hread := htest.isSealed.decodeWhole_encode htest.wireLength
  rw [htest.kind_eq, ← hkind] at hread
  rw [hfinds.turn_eq, Receiver.Turn.ofPacket, hread]

/-- A frame with three bytes of payload goes out through a ring, and comes in through a socket and
through a ring. -/
theorem transmit_receive_three : ∃ (x : Transmitter) (y y' : Receiver) (h h₁ h₂ : Host)
    (bytes : Bytes) (f : Frame), x.Hands h bytes ∧ y.Finds h₁ bytes ∧ y'.Finds h₂ bytes ∧
      (y.turn h₁).taken = .ok (some f) ∧ (y'.turn h₂).taken = .ok (some f) ∧
      f.payload = [0, 0, 0] := by
  let x : Transmitter := ⟨.ring (.pair .send none), ⟨.ieee8023, .zero, 0x88B5, 1, 3, 100⟩, 0⟩
  let bytes : Bytes := List.replicate 6 0xFF ++ List.replicate 6 0 ++ [0x88, 0xB5, 0, 0, 0]
  let y : Receiver := { channel := .socket ⟨⟨0⟩⟩, kind := .ieee8023 }
  let y' : Receiver := { channel := .ring (.pair .receive none), kind := .ieee8023 }
  have hbacked (d : RingDirection) := (Ring.pair_fresh d none {}).backed
  obtain ⟨f, -, htest, -, -, hturn⟩ := transmit_receive (x := x) (h := Ring.pairHost .send none {})
    (by decide) fun r hc => by
      cases hc
      exact ⟨rfl, hbacked .send, by decide, by decide⟩
  have hqueued : ((Ring.pair .send none).memory
      (x.onReady.run (Ring.pairHost .send none {})).2).queued 0 = bytes := by decide +kernel
  have hhands : x.Hands (Ring.pairHost .send none {}) bytes := by
    rw [← hqueued]
    exact .ring rfl rfl
  have hsocket := Receiver.finds_enqueue (y := y) (h := { script := {}, sockets := #[{}] }) rfl
    List.length_replicate (by decide) ⟨fun _ => Int.le_refl 0, rfl⟩ bytes
  have hfits : Fits 128 (.whole bytes) := ⟨rfl, rfl, by decide, by decide, by decide, by decide⟩
  have hring := Receiver.finds_deliver (y := y') rfl rfl (hbacked .receive) hfits
  refine ⟨x, y, y', _, _, _, bytes, f, hhands, hsocket, hring, ?_, ?_, htest.payload⟩
  · rw [hturn bytes hhands y _ rfl hsocket]
  · rw [hturn bytes hhands y' _ rfl hring]

end PacketLink
