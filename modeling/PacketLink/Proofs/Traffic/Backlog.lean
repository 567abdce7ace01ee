import PacketLink.Proofs.Ring.Notification
import PacketLink.Proofs.Traffic.Progress
import PacketLink.Proofs.Traffic.Steps

/-!
# Packets that wait for a receiver

* `Host.coming h s`: the packets that are still to arrive at a socket. They come with the looks at
  it, and the turns of a worker change nothing about them (`looks_steps`).
* `Receiver.Has x h owner packets`: these packets wait, whole and in order, at the channel of a
  receiver, whose socket is `owner`: in the queue of the socket, or in the ring of it.
* `Has.isReadable_eq`: the socket is readable as long as there are any.
* `Has.onReady_run`: a turn reads the first of them, and the others are left.
* `Has.arrive`: the packets that arrive wait behind the others.
* `stream packets coming`: what a receiver reads before it finds nothing, if it looks after every
  packet.
-/

namespace PacketLink

open Host SlotMemory

namespace Host

variable {h h' : Host} {s owner : SocketId}

/-! ## Packets that are still to arrive -/

/-- The packets that are still to arrive at a socket, with one look after the other. A ring has had
all its packets. -/
def coming (h : Host) (s : SocketId) : List (List Bytes) :=
  match h.activeMapping? s .receive with
  | some _ => []
  | none => h.script.arrivals.drop (h.countOf .poll)

/-- What arrivals depend on, beside the mappings: the script, the number of looks, and how many
sockets there are. -/
def looks (h : Host) : Script × Nat × Nat := (h.script, h.countOf .poll, h.sockets.size)

theorem coming_congr (hl : h'.looks = h.looks)
    (hm : h'.activeMapping? s .receive = h.activeMapping? s .receive) :
    h'.coming s = h.coming s := by
  simp only [looks, Prod.mk.injEq] at hl
  rw [coming, coming, hm, hl.1, hl.2.1]

theorem enter_looks {c : Call} (hc : c ≠ .poll) : Keeps looks (enter c) := by
  intro h
  have hcount : ((enter c).run h).2.countOf .poll = h.countOf .poll := by
    rw [countOf_enter, if_neg hc, Nat.add_zero]
  rw [looks, hcount]
  rfl

theorem updateQueue_looks (s : SocketId) (change : List Bytes → List Bytes) :
    Keeps looks (updateQueue s change) := by
  refine .modify fun h => ?_
  rw [looks, Array.size_modify]
  rfl

theorem attempt_looks {α : Type} {c : Call} {event : Outcome α → Event} {effect : Sys (Outcome α)}
    (hc : c ≠ .poll) (hx : Keeps looks effect) : Keeps looks (attempt c event effect) :=
  .attempt (enter_looks hc) (fun _ => .modify fun _ => rfl) hx

theorem transmitFrom_looks (s : SocketId) (id : MappingId) (n : Nat) :
    Keeps looks (transmitFrom s id n) := by
  induction n with
  | zero => exact .pure _
  | succ n ih =>
    refine Keeps.get.bind fun h => ?_
    split
    · exact .pure _
    · dsimp only
      split
      · refine Keeps.bind (.modify fun _ => rfl) fun _ => Keeps.bind (.modify fun _ => rfl) fun _ =>
          Keeps.bind (.modify fun _ => rfl) fun _ => ?_
        split
        · exact .pure _
        · exact ih
      · exact .pure _

theorem flush_looks (s : SocketId) : Keeps looks (flush s) := by
  refine (attempt_looks (by decide) (.pure _)).bind fun outcome => ?_
  cases outcome with
  | error e => exact .pure _
  | ok =>
    refine Keeps.get.bind fun h => ?_
    dsimp only
    split
    · exact (transmitFrom_looks _ _ _).bind fun _ => .pure _
    · exact .pure _

theorem receive_looks (s : SocketId) (length : Nat) : Keeps looks (receive s length) := by
  refine attempt_looks (by decide) (Keeps.get.bind fun h => ?_)
  split
  · exact .pure _
  · exact (updateQueue_looks _ _).bind fun _ => .pure _

/-- No step of a worker looks at a descriptor. -/
theorem looks_steps {o : Option SocketId} : Steps o fun act => Keeps looks act where
  pure := Keeps.pure
  get := Keeps.get
  bind := Keeps.bind
  report _ := .modify fun _ => rfl
  reportAll _ := .modify fun _ => rfl
  updateMemory _ _ := .modify fun _ => rfl
  readStatistics _ _ := attempt_looks (by decide) (Keeps.get.bind fun _ => .pure _)
  sendTo _ _ _ _ :=
    Keeps.get.bind fun _ => attempt_looks (by decide) (Keeps.get.bind fun _ => .pure _)
  receive s _ := receive_looks s
  flush s _ := flush_looks s

theorem arrive_looks (s : SocketId) : Keeps looks (arrive s) := by
  refine Keeps.get.bind fun h => ?_
  split
  · exact .pure _
  · exact updateQueue_looks _ _

theorem arrive_activeMapping? (s t : SocketId) (d : RingDirection) :
    Keeps (fun h => h.activeMapping? t d) (arrive s) := by
  refine Keeps.get.bind fun h => ?_
  split
  · exact .pure _
  · exact .modify fun _ => rfl

/-- A look uses up what arrives with it. -/
theorem coming_enter_poll (h : Host) (s : SocketId) :
    ((enter .poll).run h).2.coming s = (h.coming s).tail := by
  have hcount : ((enter .poll).run h).2.countOf .poll = h.countOf .poll + 1 := countOf_enter ..
  have hactive : ((enter .poll).run h).2.activeMapping? s .receive =
      h.activeMapping? s .receive := rfl
  rw [coming, coming, hactive, hcount]
  cases h.activeMapping? s .receive with
  | some id => rfl
  | none => exact List.tail_drop.symm

end Host

namespace Receiver

/-- These packets wait at the channel of a receiver, and nothing else does. -/
inductive Has (x : Receiver) (h : Host) (owner : SocketId) (packets : List Bytes) : Prop where
  | socket {s : PacketSocket} (hc : x.channel = .socket s) (hs : s.id = owner)
      (hb : x.buffer.length = x.kind.maxLength) (ho : h.Offers owner packets)
      (hm : h.activeMapping? owner .receive = none)
  | ring {v : Ring.Reception} (hc : x.channel = .ring v.ring) (hh : v.host = h) (hi : v.Inv)
      (hu : v.ring.claimed = false) (hw : v.delivered.drop v.seen.length = packets.map .whole)
      (hm : h.activeMapping? owner .receive = some v.ring.mapping)

variable {x : Receiver} {h h' : Host} {owner : SocketId} {packet : Bytes} {packets : List Bytes}

/-- The packets wait on every host that behaves like this one and has the same sockets and
mappings. -/
theorem Has.congr (hx : x.Has h owner packets) (hs : h'.script = h.script)
    (hsockets : h'.sockets = h.sockets) (hmappings : h'.mappings = h.mappings) :
    x.Has h' owner packets := by
  have hactive : h'.activeMapping? owner .receive = h.activeMapping? owner .receive := by
    simp only [activeMapping?, hmappings]
  cases hx with
  | socket hc hid hb ho hm =>
    refine .socket hc hid hb ⟨hs ▸ ho.works, ?_⟩ (hactive.trans hm)
    rw [Host.socketOf, hsockets]
    exact ho.queue
  | @ring v hc hh hi hu hw hm =>
    subst hh
    exact .ring (v := { v with host := h' }) hc rfl
      (hi.withClaim (memoryOf_congr hmappings _) hi.held hi.claimed) hu hw (hactive.trans hm)

/-- The socket is readable as long as packets wait. -/
theorem Has.isReadable_eq (hx : x.Has h owner packets) : h.isReadable owner = !packets.isEmpty := by
  cases hx with
  | socket hc hs hb ho hm => rw [isReadable, hm, ho.queue]
  | @ring v hc hh hi hu hw hm =>
    subst hh
    have hp := hi.capacity_pos
    have hlength := congrArg List.length hw
    simp only [List.length_drop, List.length_map] at hlength
    have hcount : (v.host.memoryOf v.ring.mapping).count = v.ring.capacity := hi.count
    rw [isReadable, hm]
    simp only [hcount]
    cases packets with
    | nil =>
      refine List.any_eq_false.mpr fun i hmem hu => ?_
      obtain ⟨n, hn, -⟩ := (hi.isUser_iff (List.mem_range.mp hmem)).mp hu
      simp only [List.length_nil] at hlength
      omega
    | cons packet packets =>
      have hcursor := hi.isUser_cursor_iff.mpr (by simp only [List.length_cons] at hlength; omega)
      refine List.any_eq_true.mpr ⟨v.ring.cursor, List.mem_range.mpr ?_, hcursor⟩
      rw [hi.cursor]
      exact Nat.mod_lt _ hp

/-- A channel without a ring belongs to a socket of the host if packets wait. -/
theorem Has.lt_size (hx : x.Has h owner (packet :: packets))
    (hn : h.activeMapping? owner .receive = none) : owner.number < h.sockets.size := by
  cases hx with
  | socket hc hs hb ho hm => exact lt_size_of_queue ho.queue
  | ring hc hh hi hu hw hm => cases hn.symm.trans hm

/-- What a turn leaves: these packets, and whatever is still to arrive. -/
structure Leaves (x : Receiver) (h : Host) (owner : SocketId) (packets : List Bytes)
    (x' : Receiver) (h' : Host) : Prop where
  kind : x'.kind = x.kind
  has : x'.Has h' owner packets
  looks : h'.looks = h.looks
  active : h'.activeMapping? owner .receive = h.activeMapping? owner .receive

/-- Whatever is written to the log after a turn, it leaves the same. -/
theorem Leaves.report {x' : Receiver} (hl : x.Leaves h owner packets x' h') (e : Log.Entry) :
    x.Leaves h owner packets x' ((Host.report e).run h').2 :=
  ⟨hl.kind, hl.has.congr rfl rfl rfl, hl.looks, hl.active⟩

/-- A turn reads the packet that has waited longest, and leaves the others. -/
theorem Has.onReady_run (hx : x.Has h owner (packet :: packets)) : ∃ x' h',
    x.onReady.run h = (((Turn.ofPacket x.kind x.received packet).answer, x'), h') ∧
      x.Leaves h owner packets x' h' := by
  have hlooks := x.onReady_steps (P := fun act => Keeps looks act) looks_steps h
  cases hx with
  | @socket s hc hs hb ho hm =>
    subst hs
    obtain ⟨buffer', h', htake, hl, hb'⟩ := takeFromSocket_run ho.next hb
    obtain ⟨log, hrun, -⟩ := Receiver.onReady_run (take_socket_run hc htake) rfl
    have hactive : h'.activeMapping? s.id .receive = none := by
      refine Eq.trans ?_ hm
      simp only [activeMapping?, hl.mappings]
    rw [hrun] at hlooks
    exact ⟨_, _, hrun, rfl, .socket hc rfl hb' ((ho.left hl).withLog log) hactive, hlooks,
      hactive.trans hm.symm⟩
  | @ring v hc hh hi hu hw hm =>
    subst hh
    have hnext : v.delivered[v.seen.length]? = some (.whole packet) := by
      rw [← List.head?_drop, hw, List.map_cons, List.head?_cons]
    obtain ⟨v', htake, hi', hc', -, hd, hseen⟩ := takeFromRing_run hi hnext x.kind
    -- The same turn again, for what it leaves of the mappings.
    obtain ⟨h', htake', hrings⟩ := takeFromRing_user hi.direction (hi.shows_next hnext).user x.kind
    obtain ⟨hsame, rfl⟩ := Prod.mk.inj (htake.symm.trans htake')
    have hmapping : v'.ring.mapping = v.ring.mapping := by
      rw [(Prod.mk.inj hsame).2]
      rfl
    have hactive : v'.host.activeMapping? owner .receive =
        v.host.activeMapping? owner .receive := by
      rw [activeMapping?_congr hrings, activeMapping?_onMemory]
    obtain ⟨log, hrun, -⟩ := Receiver.onReady_run (take_ring_run hc htake) rfl
    rw [hrun] at hlooks
    refine ⟨_, _, hrun, rfl, ?_, hlooks, hactive⟩
    refine .ring (v := { v' with host := { v'.host with log } }) rfl rfl
      (hi'.withClaim rfl hi'.held hi'.claimed) hc' ?_ ?_
    · show v'.delivered.drop v'.seen.length = _
      rw [hd, hseen, ← List.drop_drop, hw, List.map_cons, List.drop_succ_cons, List.drop_zero]
    · show v'.host.activeMapping? owner .receive = some v'.ring.mapping
      rw [hactive, hm, hmapping]

/-- The packets that arrive wait behind the others. -/
theorem Has.arrive (hx : x.Has h owner packets)
    (hs : h.activeMapping? owner .receive = none → owner.number < h.sockets.size) :
    x.Has ((arrive owner).run h).2 owner (packets ++ (h.coming owner).headD []) := by
  cases hx with
  | socket hc hid hb ho hm =>
    have hrun : (Host.arrive owner).run h =
        (updateQueue owner (· ++ h.script.arrivals.getD (h.countOf .poll) [])).run h := by
      rw [Host.arrive, run_bind, run_get, hm]
    have hhead : (h.coming owner).headD [] = h.script.arrivals.getD (h.countOf .poll) [] := by
      rw [coming, hm, List.headD_eq_head?_getD, List.head?_drop, List.getD_eq_getElem?_getD]
    rw [hrun, hhead]
    refine .socket hc hid hb ⟨ho.works, ?_⟩ hm
    rw [queue_updateQueue (hs hm), ho.queue]
  | @ring v hc hh hi hu hw hm =>
    have hrun : (Host.arrive owner).run h = ((), h) := by
      rw [Host.arrive, run_bind, run_get, hm]
      rfl
    have hcoming : h.coming owner = [] := by rw [coming, hm]
    rw [hrun, hcoming, List.headD_nil, List.append_nil]
    exact .ring hc hh hi hu hw hm

/-! ## All that is read -/

/-- What a receiver reads before it finds nothing: the packets that wait, and those that arrive with
the looks after each of them. -/
def stream (packets : List Bytes) (coming : List (List Bytes)) : List Bytes :=
  match packets with
  | [] => []
  | packet :: packets => packet :: stream (packets ++ coming.headD []) coming.tail
termination_by packets.length + coming.flatten.length
decreasing_by
  cases coming with
  | nil => simp
  | cons arrived coming =>
    simp only [List.headD_cons, List.tail_cons, List.length_append, List.flatten_cons,
      List.length_cons]
    omega

theorem stream_nil (coming : List (List Bytes)) : stream [] coming = [] := by rw [stream]

theorem stream_cons (packet : Bytes) (packets : List Bytes) (coming : List (List Bytes)) :
    stream (packet :: packets) coming =
      packet :: stream (packets ++ coming.headD []) coming.tail := by rw [stream]

/-- If nothing is still to arrive that is what waits. -/
theorem stream_of_nil (packets : List Bytes) : stream packets [] = packets := by
  induction packets with
  | nil => exact stream_nil []
  | cons packet packets ih =>
    rw [stream_cons, List.headD_nil, List.append_nil, List.tail_nil, ih]

end Receiver

end PacketLink
