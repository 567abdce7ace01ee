import PacketLink.Proofs.Frame.Codec
import PacketLink.Proofs.Ring.Reception
import PacketLink.Traffic.Receiver

/-!
# Receivers on sockets and on rings

Packets arrive at a receiver, and the receiver is called, in any order. On a socket it cuts them to
its buffer before it reads them, on a ring it reads the slot and cuts them then.

* `Receiver.Turn`: what can be told of a call: the frame, the answer, the count, and the report.
* `Queue`: packets that are read one after the other, each in full. This is what a receiver is.
* `Station`: a receiver with the kernel's side, and `Station.Run`, the runs of it.
* `receptions_agree`: a receiver on a socket and one on a ring have the same turns, those of the
  queue, whatever arrives whole and whenever they are called.

Each of the two follows the queue: `AtSocket` and `AtRing` say how its channel holds the packets
that wait. A call takes the first of them (`takeFromSocket_run`, `takeFromRing_run`), and then the
turn is the same for both (`Receiver.onReady_run`).
-/

namespace PacketLink

open Host SlotMemory

/-! ## Sockets with packets -/

namespace Host

variable {α : Type} {h h' : Host} {s : SocketId} {packet : Bytes} {packets : List Bytes}

/-- These packets wait at a socket, and receiving does not fail. -/
structure Offers (h : Host) (s : SocketId) (packets : List Bytes) : Prop where
  works : ∀ n, h.script.failure .receive n ≤ 0
  queue : (h.socketOf s).queue = packets

theorem queue_updateQueue (hs : s.number < h.sockets.size) (change : List Bytes → List Bytes) :
    (((updateQueue s change).run h).2.socketOf s).queue = change (h.socketOf s).queue := by
  rw [updateQueue, run_modify]
  simp [socketOf, hs, Array.getElem_modify]

theorem lt_size_of_queue (hq : (h.socketOf s).queue = packet :: packets) :
    s.number < h.sockets.size := by
  refine Nat.lt_of_not_le fun hle => ?_
  simp [socketOf, Nat.not_lt.mpr hle] at hq

/-- A packet joins those that wait at a socket. What else changes on the host is of no importance,
as long as the kernel behaves as before. -/
structure Joins (s : SocketId) (packet : Bytes) (h h' : Host) : Prop where
  script : h'.script = h.script
  queue : (h'.socketOf s).queue = (h.socketOf s).queue ++ [packet]

/-- The queue of a socket of the host is one that packets join. -/
theorem joins_enqueue (hs : s.number < h.sockets.size) (packet : Bytes) :
    Joins s packet h ((enqueue s packet).run h).2 :=
  ⟨rfl, queue_updateQueue hs (· ++ [packet])⟩

theorem Offers.join (ho : h.Offers s packets) (hj : Joins s packet h h') :
    h'.Offers s (packets ++ [packet]) := by
  refine ⟨?_, ?_⟩
  · rw [hj.script]
    exact ho.works
  · rw [hj.queue, ho.queue]

theorem Offers.withLog (ho : h.Offers s packets) (log : List Log.Entry) :
    { h with log }.Offers s packets := ⟨ho.works, ho.queue⟩

/-- A call that the script lets pass has its effect, and is on record. -/
theorem attempt_run {c : Call} {event : Outcome α → Event} {effect : Sys (Outcome α)}
    {outcome : Outcome α} {k : Host} (hc : h.script.failure c (h.countOf c) ≤ 0)
    (he : effect.run ((enter c).run h).2 = (outcome, k)) :
    (attempt c event effect).run h = (outcome, ((record (event outcome)).run k).2) := by
  have hcode : ¬ 0 < ((enter c).run h).1 := Int.not_lt.mpr hc
  rw [attempt, run_bind, if_neg hcode, run_bind, he]
  rfl

theorem receive_run_nil (ho : h.Offers s []) (length : Nat) :
    ∃ h', (receive s length).run h = (.error .wouldBlock, h') ∧ h'.Offers s [] := by
  have hq : (((enter .receive).run h).2.socketOf s).queue = [] := ho.queue
  refine ⟨_, attempt_run (k := ((enter .receive).run h).2) (ho.works _) ?_, ho.works, ho.queue⟩
  rw [run_bind, run_get, hq]
  rfl

/-- This packet is the next at a socket, with others behind it, and receiving it does not fail. -/
structure Next (h : Host) (s : SocketId) (packet : Bytes) (packets : List Bytes) : Prop where
  works : h.script.failure .receive (h.countOf .receive) ≤ 0
  queue : (h.socketOf s).queue = packet :: packets

theorem Offers.next (ho : h.Offers s (packet :: packets)) : h.Next s packet packets :=
  ⟨ho.works _, ho.queue⟩

/-- What is left at the socket once the packet was received. -/
structure Left (h : Host) (s : SocketId) (packets : List Bytes) (h' : Host) : Prop where
  script : h'.script = h.script
  mappings : h'.mappings = h.mappings
  queue : (h'.socketOf s).queue = packets

theorem Offers.left (ho : h.Offers s (packet :: packets)) (hl : h.Left s packets h') :
    h'.Offers s packets := by
  refine ⟨?_, hl.queue⟩
  rw [hl.script]
  exact ho.works

/-- The packet that was there first is taken, as far as there is room for it. -/
theorem Next.receive_run (hn : h.Next s packet packets) (length : Nat) :
    ∃ h', (receive s length).run h = (.ok (packet.take length, packet.length), h') ∧
      h.Left s packets h' := by
  have hq : (((enter .receive).run h).2.socketOf s).queue = packet :: packets := hn.queue
  have hrest := queue_updateQueue (lt_size_of_queue hq) fun _ => packets
  refine ⟨_, attempt_run (k := ((updateQueue s fun _ => packets).run ((enter .receive).run h).2).2)
    hn.works ?_, rfl, rfl, hrest⟩
  rw [run_bind, run_get, hq]
  rfl

end Host

/-- The buffer takes as much of the packet as it has room for, and that is what is read from it. -/
theorem PacketSocket.receive_run {h : Host} {s : PacketSocket} {packet : Bytes}
    {packets : List Bytes} (hn : h.Next s.id packet packets) (buffer : Bytes) :
    ∃ captured buffer' h', (s.receive buffer).run h =
        ((.ok ⟨captured, packet.length⟩, buffer'), h') ∧ h.Left s.id packets h' ∧
      buffer'.length = buffer.length ∧ buffer'.take captured = packet.take buffer.length := by
  obtain ⟨h', hrun, hl⟩ := hn.receive_run buffer.length
  refine ⟨min packet.length buffer.length, overlay buffer 0 (packet.take buffer.length), h', ?_,
    hl, length_overlay .., ?_⟩
  · rw [receive, run_bind, hrun]
    rfl
  · have hlength : (packet.take buffer.length).length = min packet.length buffer.length := by
      rw [List.length_take, Nat.min_comm]
    rw [← hlength]
    exact take_overlay_zero (by omega)

theorem PacketSocket.receive_run_nil {h : Host} {s : PacketSocket} (ho : h.Offers s.id [])
    (buffer : Bytes) :
    ∃ h', (s.receive buffer).run h = ((.error .wouldBlock, buffer), h') ∧ h'.Offers s.id [] := by
  obtain ⟨h', hrun, ho'⟩ := Host.receive_run_nil ho buffer.length
  refine ⟨h', ?_, ho'⟩
  rw [receive, run_bind, hrun]
  rfl

/-- A packet that the kernel delivered whole. -/
def Ring.Capture.whole (packet : Bytes) : Capture := ⟨packet, packet.length, packet.length, false⟩

theorem Ring.Capture.ofDelivery_whole (packet : Bytes) :
    ofDelivery (.whole packet) = .whole packet := by
  have hcut : isCopy (Delivery.whole packet).flags = false := by
    show isCopy 0 = false
    decide
  rw [ofDelivery, hcut]
  rfl

/-! ## Turns -/

namespace Receiver

/-- What can be told of one call of a receiver. -/
structure Turn where
  /-- The frame that it took, if there was one. -/
  taken : Except LinkError (Option Frame)
  answer : Except LinkError Dispatch
  /-- The number of frames reported so far. -/
  received : Nat
  /-- The report of the frame. -/
  report : Option Log.Entry

/-- The turn that a call is on a host. -/
def turn (x : Receiver) (h : Host) : Turn where
  taken := (x.take.run h).1.1
  answer := (x.onReady.run h).1.1
  received := (x.onReady.run h).1.2.received
  report :=
    match (x.onReady.run h).1.1 with
    | .ok .handled => (x.onReady.run h).2.log.head?
    | _ => none

/-- A turn without a packet. -/
def Turn.idle (received : Nat) : Turn := ⟨.ok none, .ok .idle, received, none⟩

/-- The turn for a packet, after `received` frames. -/
def Turn.ofPacket (kind : FrameKind) (received : Nat) (packet : Bytes) : Turn :=
  match Frame.decodeWhole kind packet with
  | .error e => ⟨.error (.frame e), .error (.frame e), received, none⟩
  | .ok f => ⟨.ok (some f), .ok .handled, received + 1, some (Receiver.report (received + 1) f)⟩

variable {x x' : Receiver} {h h' : Host} {kind : FrameKind} {packet : Bytes}

theorem onReady_run_none (ht : x.take.run h = ((.ok none, x'), h'))
    (hr : x'.received = x.received) :
    x.onReady.run h = ((.ok .idle, x'), h') ∧ x.turn h = .idle x.received := by
  have hrun : x.onReady.run h = ((.ok .idle, x'), h') := by
    rw [onReady, run_bind, ht]
    rfl
  refine ⟨hrun, ?_⟩
  rw [turn, hrun, ht, ← hr]
  rfl

/-- What reading a packet as a kind gives. -/
def read (kind : FrameKind) (packet : Bytes) : Except LinkError Frame :=
  (Frame.decodeWhole kind packet).mapError .frame

/-- A turn for a packet is the same wherever the packet came from. -/
theorem onReady_run (ht : x.take.run h = (((read kind packet).map some, x'), h'))
    (hr : x'.received = x.received) : ∃ log,
      x.onReady.run h = (((Turn.ofPacket kind x.received packet).answer,
        { x' with received := (Turn.ofPacket kind x.received packet).received }),
        { h' with log }) ∧
      x.turn h = .ofPacket kind x.received packet := by
  cases hd : Frame.decodeWhole kind packet with
  | error e =>
    have hturn : Turn.ofPacket kind x.received packet =
        ⟨.error (.frame e), .error (.frame e), x.received, none⟩ := by rw [Turn.ofPacket, hd]
    have htake : x.take.run h = ((.error (.frame e), x'), h') := by rw [ht, read, hd]; rfl
    have hrun : x.onReady.run h = ((.error (.frame e), x'), h') := by
      rw [onReady, run_bind, htake]
      rfl
    rw [hturn, turn, hrun, htake, ← hr]
    exact ⟨_, rfl, rfl⟩
  | ok f =>
    have hturn : Turn.ofPacket kind x.received packet =
        ⟨.ok (some f), .ok .handled, x.received + 1, some (report (x.received + 1) f)⟩ := by
      rw [Turn.ofPacket, hd]
    have htake : x.take.run h = ((.ok (some f), x'), h') := by rw [ht, read, hd]; rfl
    have hrun : x.onReady.run h = ((.ok .handled, { x' with received := x.received + 1 }),
        ((Host.report (report (x.received + 1) f)).run h').2) := by
      rw [onReady, run_bind, htake, ← hr]
      rfl
    rw [hturn, turn, hrun, htake]
    exact ⟨_, rfl, rfl⟩

/-- Reading a capture gives the frame or the refusal, and writes to the log only. -/
theorem decodeCapture_run (kind : FrameKind) (captured : Bytes) (wireLength : Nat) (h : Host) :
    ∃ log, (decodeCapture kind captured wireLength).run h =
      ((Frame.decode kind captured wireLength).mapError .frame, { h with log }) := by
  unfold decodeCapture
  cases Frame.decode kind captured wireLength with
  | error e => exact ⟨_, rfl⟩
  | ok f => exact ⟨_, rfl⟩

/-! ## Taking the next packet from a socket -/

variable {s : PacketSocket} {packets : List Bytes}

theorem takeFromSocket_run_nil (ho : h.Offers s.id []) (kind : FrameKind) (buffer : Bytes) :
    ∃ h', (takeFromSocket s kind buffer).run h = ((.ok none, buffer), h') ∧ h'.Offers s.id [] := by
  obtain ⟨h', hrun, ho'⟩ := s.receive_run_nil ho buffer
  refine ⟨h', ?_, ho'⟩
  rw [takeFromSocket, run_bind, hrun]
  rfl

/-- A buffer for the longest frame of the kind loses nothing that is read. -/
theorem takeFromSocket_run (hn : h.Next s.id packet packets) {buffer : Bytes}
    (hb : buffer.length = kind.maxLength) :
    ∃ buffer' h', (takeFromSocket s kind buffer).run h =
        (((read kind packet).map some, buffer'), h') ∧
      h.Left s.id packets h' ∧ buffer'.length = kind.maxLength := by
  obtain ⟨captured, buffer', h₁, hrun, hl, hlength, htake⟩ := s.receive_run hn buffer
  rw [hb] at htake
  obtain ⟨log, hdecode⟩ := decodeCapture_run kind (packet.take kind.maxLength) packet.length h₁
  rw [Frame.decode_take_maxLength kind (Nat.le_refl _)] at hdecode
  refine ⟨buffer', { h₁ with log }, ?_, ⟨hl.script, hl.mappings, hl.queue⟩, hlength.trans hb⟩
  rw [takeFromSocket, run_bind, hrun]
  simp only [run_bind, htake, hdecode]
  rfl

/-! ## Taking the next packet from a ring -/

variable {v : Ring.Reception}

/-- A slot that is seen to hold a packet is read like the packet. -/
theorem readSlot_run {r : Ring} {slot : Slot}
    (hview : r.view (r.memory h) slot = some (.whole packet)) (kind : FrameKind) :
    ∃ log, (readSlot r slot kind).run h = (read kind packet, { h with log }) := by
  unfold Ring.view at hview
  cases hp : r.payload (r.memory h) slot with
  | error e =>
    rw [hp] at hview
    cases hview
  | ok data =>
    rw [hp] at hview
    obtain ⟨rfl, -, hwire, hcut⟩ := Ring.Capture.mk.inj (Option.some.inj hview)
    obtain ⟨log, hdecode⟩ := decodeCapture_run kind data data.length h
    refine ⟨log, ?_⟩
    rw [readSlot, if_neg (of_decide_eq_false hcut), run_bind, run_get]
    simp only [hp, hwire]
    exact hdecode

theorem takeFromRing_run_none (hi : v.Inv) (hn : v.seen.length = v.delivered.length)
    (kind : FrameKind) : ∃ h',
      (takeFromRing v.ring kind).run v.host = ((.ok none, v.ring), h') ∧
      Ring.Reception.Inv { v with host := h', held := none } := by
  obtain ⟨h', hrun, -⟩ := Ring.acquireRead_run hi.direction v.host
  have hslot : v.ring.readSlot? (v.ring.memory v.host) = none :=
    Ring.readSlot?_eq_none_iff.mpr fun hu => absurd (hi.isUser_cursor_iff.mp hu) (by omega)
  rw [Ring.afterAcquire, hslot] at hrun
  refine ⟨h', ?_, hi.acquire hrun⟩
  rw [takeFromRing, run_bind, hrun]
  rfl

/-- The next packet is read in its slot, and the slot goes back to the kernel. -/
theorem takeFromRing_run (hi : v.Inv)
    (hn : v.delivered[v.seen.length]? = some (.whole packet)) (kind : FrameKind) :
    ∃ v' : Ring.Reception,
      (takeFromRing v.ring kind).run v.host = (((read kind packet).map some, v'.ring), v'.host) ∧
      v'.Inv ∧ v'.ring.claimed = false ∧ v'.kernelCursor = v.kernelCursor ∧
      v'.delivered = v.delivered ∧ v'.seen.length = v.seen.length + 1 := by
  obtain ⟨slot, r, h₁, hacquire, hc, hview⟩ := hi.acquire_some hn
  obtain ⟨log, hread⟩ := readSlot_run hview kind
  have hi₁ := hi.acquire hacquire
  have hi₂ : Ring.Reception.Inv { v with host := { h₁ with log }, ring := r, held := some slot } :=
    hi₁.withClaim rfl hi₁.held hi₁.claimed
  have hrelease := Ring.releaseRead_run hc { h₁ with log }
  refine ⟨_, ?_, hi₂.release hrelease, rfl, rfl, rfl, by simp⟩
  rw [takeFromRing, run_bind, hacquire]
  simp only [run_bind, hread, hrelease]
  rfl

theorem take_socket_run {buffer : Bytes} {taken : Except LinkError (Option Frame)}
    (hc : x.channel = .socket s)
    (ht : (takeFromSocket s x.kind x.buffer).run h = ((taken, buffer), h')) :
    x.take.run h = ((taken, { x with buffer }), h') := by
  unfold take
  rw [hc]
  dsimp only
  rw [run_bind, ht]
  rfl

theorem take_ring_run {r r' : Ring} {taken : Except LinkError (Option Frame)}
    (hc : x.channel = .ring r) (ht : (takeFromRing r x.kind).run h = ((taken, r'), h')) :
    x.take.run h = ((taken, { x with channel := .ring r' }), h') := by
  unfold take
  rw [hc]
  dsimp only
  rw [run_bind, ht]
  rfl

/-! ## Runs -/

/-- What happens at a receiver. -/
inductive Occasion where
  | arrival (packet : Bytes)
  | call

/-- Packets that are read one after the other. -/
structure Queue where
  waiting : List Bytes := []
  received : Nat := 0
  turns : List Turn := []

/-- A call reads the packet that has waited longest. -/
def Queue.call (kind : FrameKind) (q : Queue) : Queue :=
  match q.waiting with
  | [] => { q with turns := q.turns ++ [.idle q.received] }
  | packet :: rest =>
    let turn := Turn.ofPacket kind q.received packet
    { waiting := rest, received := turn.received, turns := q.turns ++ [turn] }

/-- What an occasion makes of the queue. -/
def Queue.after (kind : FrameKind) (q : Queue) : Occasion → Queue
  | .arrival packet => { q with waiting := q.waiting ++ [packet] }
  | .call => q.call kind

/-- A receiver with the kernel's side of its channel, and its turns so far. -/
structure Station where
  host : Host
  receiver : Receiver
  /-- The slot that the kernel fills next, if the channel is a ring. -/
  kernelCursor : Nat := 0
  turns : List Turn := []

namespace Station

/-- A receiver that was never called. -/
def new (h : Host) (channel : Channel) (kind : FrameKind) : Station where
  host := h
  receiver := { channel, kind }

/-- The station after a call. -/
def call (t : Station) : Station :=
  { t with
    host := (t.receiver.onReady.run t.host).2
    receiver := (t.receiver.onReady.run t.host).1.2
    turns := t.turns ++ [t.receiver.turn t.host] }

/-- The kernel delivers a packet whole into the slot at its cursor, which is free, so that the ring
does not overflow. Where in the slot it puts the packet, and what else it says of it, is open. -/
def Delivers (t : Station) (r : Ring) (packet : Bytes) (h : Host) : Prop :=
  Ring.Reception.Delivers { host := t.host, ring := r, kernelCursor := t.kernelCursor }
    (.whole packet) h

/-- The kernel of the host is one that delivers as it should. -/
theorem delivers_deliver {t : Station} {r : Ring} {k : Mapping} {packet : Bytes}
    (hk : t.host.mappings[r.mapping.number]? = some k)
    (hfree : (r.memory t.host).status t.kernelCursor = SlotMemory.free)
    (hl : ((r.memory t.host).slot t.kernelCursor).length = r.slotSize)
    (hd : Ring.Fits r.slotSize (.whole packet)) :
    t.Delivers r packet
      (t.host.onMemory r.mapping fun m => m.deliver t.kernelCursor (.whole packet)) := by
  have hdelivers := Ring.Reception.delivers_deliver
    (s := { host := t.host, ring := r, kernelCursor := t.kernelCursor }) hk hfree hl hd
  rwa [Ring.Capture.ofDelivery_whole] at hdelivers

/-- What one occasion makes of a station. -/
inductive Step : Occasion → Station → Station → Prop where
  | joined {t : Station} {s : PacketSocket} {packet : Bytes} {h : Host}
      (hc : t.receiver.channel = .socket s) (hj : Joins s.id packet t.host h) :
    Step (.arrival packet) t { t with host := h }
  | delivered {t : Station} {r : Ring} {packet : Bytes} {h : Host}
      (hc : t.receiver.channel = .ring r) (hd : t.Delivers r packet h) :
    Step (.arrival packet) t
      { t with host := h, kernelCursor := (t.kernelCursor + 1) % r.capacity }
  | called {t : Station} : Step .call t t.call

/-- What a sequence of occasions makes of a station. -/
inductive Run : List Occasion → Station → Station → Prop where
  | nil {t : Station} : Run [] t t
  | cons {o : Occasion} {os : List Occasion} {t t' t'' : Station} (hs : Step o t t')
      (hr : Run os t' t'') : Run (o :: os) t t''

/-- What a station and the queue that it follows have in common. -/
structure Follows (kind : FrameKind) (t : Station) (q : Queue) : Prop where
  kind_eq : t.receiver.kind = kind
  received : t.receiver.received = q.received
  turns : t.turns = q.turns

variable {t t' : Station} {q : Queue} {o : Occasion}

/-- A call without a packet. -/
theorem Follows.call_nil (hf : t.Follows kind q) (hq : q.waiting = [])
    (ht : t.receiver.take.run t.host = ((.ok none, x'), h'))
    (hr : x'.received = t.receiver.received) (hk : x'.kind = kind) :
    t.call = { t with host := h', receiver := x', turns := (q.call kind).turns } ∧
      t.call.Follows kind (q.call kind) ∧ (q.call kind).waiting = [] := by
  obtain ⟨hrun, hturn⟩ := onReady_run_none ht hr
  have hcall : q.call kind = { q with turns := q.turns ++ [.idle q.received] } := by
    rw [Queue.call, hq]
  have ht' : t.call = { t with host := h', receiver := x', turns := (q.call kind).turns } := by
    rw [call, hrun, hturn, hf.turns, hf.received, hcall]
  rw [ht']
  exact ⟨rfl, ⟨hk, by rw [hcall]; exact hr.trans hf.received, rfl⟩, by rw [hcall]; exact hq⟩

/-- A call with a packet. -/
theorem Follows.call_cons (hf : t.Follows kind q) (hq : q.waiting = packet :: packets)
    (ht : t.receiver.take.run t.host = (((read kind packet).map some, x'), h'))
    (hr : x'.received = t.receiver.received) (hk : x'.kind = kind) : ∃ log,
    t.call = { t with
      host := { h' with log }, receiver := { x' with received := (q.call kind).received },
      turns := (q.call kind).turns } ∧
      t.call.Follows kind (q.call kind) ∧ (q.call kind).waiting = packets := by
  obtain ⟨log, hrun, hturn⟩ := onReady_run ht hr
  have hcall : q.call kind =
      { waiting := packets, received := (Turn.ofPacket kind q.received packet).received,
        turns := q.turns ++ [.ofPacket kind q.received packet] } := by
    rw [Queue.call, hq]
  have ht' : t.call = { t with
      host := { h' with log }, receiver := { x' with received := (q.call kind).received },
      turns := (q.call kind).turns } := by
    rw [call, hrun, hturn, hf.turns, hf.received, hcall]
  refine ⟨log, ht', ?_, by rw [hcall]⟩
  rw [ht']
  exact ⟨hk, rfl, rfl⟩

/-! ## Both follow the queue -/

/-- A station at a socket that follows a queue. -/
structure AtSocket (s : PacketSocket) (kind : FrameKind) (t : Station) (q : Queue) : Prop
    extends Follows kind t q where
  channel : t.receiver.channel = .socket s
  buffer : t.receiver.buffer.length = kind.maxLength
  offers : t.host.Offers s.id q.waiting

theorem AtSocket.call (ha : AtSocket s kind t q) : AtSocket s kind t.call (q.call kind) := by
  have ho := ha.offers
  have hkind := ha.kind_eq
  subst hkind
  cases hq : q.waiting with
  | nil =>
    rw [hq] at ho
    obtain ⟨h', htake, ho'⟩ := takeFromSocket_run_nil ho t.receiver.kind t.receiver.buffer
    obtain ⟨ht, hf, hw⟩ := ha.toFollows.call_nil hq (take_socket_run ha.channel htake) rfl rfl
    refine ⟨hf, ?_, ?_, ?_⟩
    · rw [ht]
      exact ha.channel
    · rw [ht]
      exact ha.buffer
    · rw [ht, hw]
      exact ho'
  | cons packet packets =>
    rw [hq] at ho
    obtain ⟨buffer', h', htake, hl, hb⟩ := takeFromSocket_run ho.next ha.buffer
    obtain ⟨log, ht, hf, hw⟩ :=
      ha.toFollows.call_cons hq (take_socket_run ha.channel htake) rfl rfl
    refine ⟨hf, ?_, ?_, ?_⟩
    · rw [ht]
      exact ha.channel
    · rw [ht]
      exact hb
    · rw [ht, hw]
      exact (ho.left hl).withLog log

theorem AtSocket.step (ha : AtSocket s kind t q) (hs : Step o t t') :
    AtSocket s kind t' (q.after kind o) := by
  cases hs with
  | joined hc hj =>
    cases ha.channel.symm.trans hc
    exact ⟨⟨ha.kind_eq, ha.received, ha.turns⟩, ha.channel, ha.buffer, ha.offers.join hj⟩
  | delivered hc hd => cases ha.channel.symm.trans hc
  | called => exact ha.call

/-- A station at a ring that follows a queue: the packets that wait are those that were delivered
and not released. -/
structure AtRing (v : Ring.Reception) (kind : FrameKind) (t : Station) (q : Queue) : Prop
    extends Follows kind t q where
  channel : t.receiver.channel = .ring v.ring
  host : t.host = v.host
  kernelCursor : t.kernelCursor = v.kernelCursor
  inv : v.Inv
  unclaimed : v.ring.claimed = false
  waiting : v.delivered.drop v.seen.length = q.waiting.map .whole

theorem AtRing.call (ha : AtRing v kind t q) :
    ∃ v', AtRing v' kind t.call (q.call kind) := by
  have hwait := ha.waiting
  have hkind := ha.kind_eq
  subst hkind
  cases hq : q.waiting with
  | nil =>
    rw [hq, List.map_nil, List.drop_eq_nil_iff] at hwait
    obtain ⟨h', htake, hi⟩ :=
      takeFromRing_run_none ha.inv (Nat.le_antisymm ha.inv.released_le hwait) t.receiver.kind
    rw [← ha.host] at htake
    obtain ⟨ht, hf, hw⟩ := ha.toFollows.call_nil hq (take_ring_run ha.channel htake) rfl rfl
    refine ⟨{ v with host := h', held := none }, hf, ?_, ?_, ?_, hi, ha.unclaimed, ?_⟩
    · rw [ht]
    · rw [ht]
    · rw [ht]
      exact ha.kernelCursor
    · rw [hw]
      exact List.drop_eq_nil_iff.mpr hwait
  | cons packet packets =>
    rw [hq, List.map_cons] at hwait
    have hnext : v.delivered[v.seen.length]? = some (.whole packet) := by
      rw [← List.head?_drop, hwait, List.head?_cons]
    obtain ⟨v', htake, hi, hc, hk, hd, hseen⟩ := takeFromRing_run ha.inv hnext t.receiver.kind
    rw [← ha.host] at htake
    obtain ⟨log, ht, hf, hw⟩ := ha.toFollows.call_cons hq (take_ring_run ha.channel htake) rfl rfl
    refine ⟨{ v' with host := { v'.host with log } }, hf, ?_, ?_, ?_,
      hi.withClaim rfl hi.held hi.claimed, hc, ?_⟩
    · rw [ht]
    · rw [ht]
    · rw [ht]
      exact ha.kernelCursor.trans hk.symm
    · rw [hw, hd, hseen, ← List.drop_drop, hwait, List.drop_succ_cons, List.drop_zero]

theorem AtRing.step (ha : AtRing v kind t q) (hs : Step o t t') :
    ∃ v', AtRing v' kind t' (q.after kind o) := by
  cases hs with
  | joined hc hj => cases ha.channel.symm.trans hc
  | @delivered _ r packet h hc hd =>
    cases ha.channel.symm.trans hc
    have hd' : v.Delivers (.whole packet) h := by
      rw [Delivers, ha.host, ha.kernelCursor] at hd
      exact ⟨hd.free, hd.count, hd.others, hd.shows⟩
    refine ⟨{ v with
      host := h
      kernelCursor := (v.kernelCursor + 1) % v.ring.capacity
      delivered := v.delivered ++ [Ring.Capture.whole packet] },
      ⟨ha.kind_eq, ha.received, ha.turns⟩, ha.channel, rfl, ?_, ha.inv.deliver hd',
      ha.unclaimed, ?_⟩
    · exact congrArg (fun n => (n + 1) % v.ring.capacity) ha.kernelCursor
    · show (v.delivered ++ [Ring.Capture.whole packet]).drop v.seen.length =
        (q.waiting ++ [packet]).map Ring.Capture.whole
      rw [List.drop_append_of_le_length ha.inv.released_le, ha.waiting, List.map_append]
      rfl
  | called => exact ha.call

theorem AtSocket.run {os : List Occasion} (hr : Run os t t') (ha : AtSocket s kind t q) :
    AtSocket s kind t' (os.foldl (Queue.after kind) q) := by
  induction hr generalizing q with
  | nil => exact ha
  | cons hs _ ih => exact ih (ha.step hs)

theorem AtRing.run {os : List Occasion} (hr : Run os t t') (ha : AtRing v kind t q) :
    ∃ v', AtRing v' kind t' (os.foldl (Queue.after kind) q) := by
  induction hr generalizing v q with
  | nil => exact ⟨v, ha⟩
  | cons hs _ ih =>
    obtain ⟨v', ha'⟩ := ha.step hs
    exact ih ha'

/-- Receiving from a socket and receiving from a ring are the same: of packets that arrive whole the
two receivers make the same turns, which are those of a queue. -/
theorem receptions_agree {kind : FrameKind} {s : PacketSocket} {r : Ring} {h h' : Host}
    {os : List Occasion} {t t' : Station} (ho : h.Offers s.id []) (hf : r.Fresh h')
    (hd : r.direction = .receive) (hs : Run os (.new h (.socket s) kind) t)
    (hr : Run os (.new h' (.ring r) kind) t') :
    t.turns = t'.turns ∧ t'.turns = (os.foldl (Queue.after kind) {}).turns := by
  have hsocket := AtSocket.run hs (q := {})
    ⟨⟨rfl, rfl, rfl⟩, rfl, List.length_replicate, ho⟩
  obtain ⟨v, hring⟩ := AtRing.run hr (q := {}) (v := { host := h', ring := r })
    ⟨⟨rfl, rfl, rfl⟩, rfl, rfl, rfl, .start hf hd, hf.claimed, rfl⟩
  exact ⟨hsocket.turns.trans hring.turns.symm, hring.turns⟩

/-- Two packets arrive, the first too short for a header, and then there are three calls. -/
theorem receptions_agree_pair : ∃ t t' : Station,
    (∃ os h, Run os (.new h (.socket ⟨⟨0⟩⟩) .ieee8023) t ∧
      Run os (.new (Ring.pairHost .receive none {}) (.ring (.pair .receive none)) .ieee8023) t') ∧
      t.turns.map (·.received) = [0, 1, 1] ∧ t.turns = t'.turns := by
  let host : Host := { script := {}, sockets := #[{}] }
  let short : Bytes := [1, 2, 3]
  let long : Bytes := List.replicate 16 7
  let os : List Occasion := [.arrival short, .arrival long, .call, .call, .call]
  have hfits (data : Bytes) (h : data.length ≤ 64) : Ring.Fits 128 (.whole data) :=
    ⟨rfl, rfl, Nat.add_le_add_left h 64, by decide, Nat.lt_of_le_of_lt h (by decide),
      (by decide : 0 < Nat.pow 256 8)⟩
  have hcalls (t : Station) : Run [.call, .call, .call] t t.call.call.call :=
    .cons .called (.cons .called (.cons .called .nil))
  have hsocket : ∃ t, Run os (.new host (.socket ⟨⟨0⟩⟩) .ieee8023) t :=
    ⟨_, .cons (.joined rfl (joins_enqueue (by decide) short))
      (.cons (.joined rfl (joins_enqueue (by decide) long)) (hcalls _))⟩
  have hring : ∃ t, Run os
      (.new (Ring.pairHost .receive none {}) (.ring (.pair .receive none)) .ieee8023) t :=
    ⟨_, .cons (.delivered rfl (delivers_deliver rfl (by decide) rfl (hfits short (by decide))))
      (.cons (.delivered rfl (delivers_deliver rfl (by decide +kernel) rfl
        (hfits long (by decide)))) (hcalls _))⟩
  obtain ⟨t, ht⟩ := hsocket
  obtain ⟨t', ht'⟩ := hring
  obtain ⟨hsame, hqueue⟩ := receptions_agree (h := host) ⟨fun _ => Int.le_refl 0, rfl⟩
    (Ring.pair_fresh .receive none {}) rfl ht ht'
  refine ⟨t, t', ⟨os, host, ht, ht'⟩, ?_, hsame⟩
  rw [hsame, hqueue]
  decide +kernel

end Station

end Receiver

end PacketLink
