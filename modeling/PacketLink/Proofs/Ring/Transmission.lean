import PacketLink.Proofs.Ring.Laps
import PacketLink.Proofs.Ring.Operations

/-!
# Frames that pass through a ring for sending

A program claims slots and submits frames; the kernel takes the frames from its own cursor on, and
is done with each at once or later. Submitting a frame asks the kernel to send, which may fail. The
kernel may just as well take frames at any other time.

* `Transmission`: the ring with the host that it was made on, the frames accepted, and the frames
  that the kernel completed after it had taken them.
* `Transmission.Step`: one turn of the program, of the kernel, or of anything else on the host.
* `transmission_lossless`: in every state that can be reached, the frames that left are the first
  frames accepted, in order and unchanged, at most one frame a slot is not completed, and the slot
  at the cursor may be claimed exactly if it has no such frame.

The invariant (`Transmission.Inv`) numbers the frames in the order of acceptance. Those that are at
most one lap old have a slot each, which tells how far its frame has come
(`Transmission.Slotted`); the older ones are completed.
-/

namespace PacketLink.Ring

open Host SlotMemory

/-- The status word of a slot of which the frame is being sent. -/
def sending : Nat := 2

/-- The status word of a slot of which the frame was refused. -/
def wrongFormat : Nat := 4

/-- A kernel that leaves every slot from which it takes a frame as one that is being sent, or as
free, or with its frame refused. -/
def IsOrderly (script : Script) : Prop :=
  ∀ n, script.left n = free ∨ script.left n = sending ∨ script.left n = wrongFormat

/-- A ring for sending, with what has happened to its frames. -/
structure Transmission where
  /-- The host that the ring was made on. -/
  origin : Host
  host : Host
  ring : Ring
  /-- The slot that the program has claimed and not submitted. -/
  held : Option Slot := none
  /-- The frames that were submitted and not refused, in order. -/
  accepted : List Bytes := []
  /-- The numbers of the frames that the kernel completed after it had taken them. -/
  completed : List Nat := []

namespace Transmission

/-- The memory of the ring. -/
def memory (s : Transmission) : SlotMemory := s.ring.memory s.host

/-- The number of frames that the kernel has taken. -/
def taken (s : Transmission) : Nat := s.host.ringFrames - s.origin.ringFrames

/-- The frames that left through the ring, in order. -/
def sent (s : Transmission) : List Bytes := s.host.sentFrames.drop s.origin.sentFrames.length

/-- The status word that the kernel leaves behind with the `n`-th frame of the ring. -/
def word (s : Transmission) (n : Nat) : Nat := s.origin.script.left (s.origin.ringFrames + n)

/-- The kernel is done with the `n`-th frame. -/
def IsFinished (s : Transmission) (n : Nat) : Prop :=
  n < s.taken ∧ (s.word n ≠ sending ∨ n ∈ s.completed)

instance (s : Transmission) (n : Nat) : Decidable (s.IsFinished n) :=
  inferInstanceAs (Decidable (_ ∧ _))

/-- The number of frames that were accepted and that the kernel is not done with. -/
def uncompleted (s : Transmission) : Nat :=
  (List.range s.accepted.length).countP fun n => ¬ s.IsFinished n

/-- One turn of the program, of the kernel, or of anything else on the host. -/
inductive Step : Transmission → Transmission → Prop where
  | acquire {s : Transmission} {slot? : Option Slot} {h : Host}
      (ha : s.ring.acquireWrite.run s.host = (.ok slot?, h)) :
    Step s { s with host := h, held := slot? }
  | submit {s : Transmission} {slot : Slot} {frame : Bytes} {answer : Except LinkError Unit}
      {r : Ring} {h : Host} (hs : s.held = some slot)
      (hr : (s.ring.submitWrite slot frame).run s.host = ((answer, r), h)) :
    Step s { s with
      host := h, ring := r
      held := if isQueued answer then none else some slot
      accepted := if isQueued answer then s.accepted ++ [frame] else s.accepted }
  /-- The kernel takes the frame at its cursor if it is asked to. -/
  | take {s : Transmission} {socket : SocketId} {k : Mapping}
      (hk : s.host.mappings[s.ring.mapping.number]? = some k)
      (hs : isSendRequest (k.memory.status k.nextSend) = true) :
    Step s { s with host := s.host.takeNext socket s.ring.mapping k }
  /-- The kernel is done with a frame that it has taken. -/
  | complete {s : Transmission} {n word : Nat} (hn : n < s.taken) (hf : ¬ s.IsFinished n)
      (hw : word = free ∨ word = wrongFormat) :
    Step s { s with
      host := s.host.onMemory s.ring.mapping fun m => m.setStatus (n % s.ring.capacity) word
      completed := n :: s.completed }
  /-- What no ring can tell happens on the host. -/
  | other {s : Transmission} {h : Host} (hr : h.rings = s.host.rings) :
    Step s { s with host := h }

/-- What can be reached from a ring as it is on a host. -/
inductive Reachable (h : Host) (r : Ring) : Transmission → Prop where
  | start : Reachable h r { origin := h, host := h, ring := r }
  | step {s s' : Transmission} (hs : Reachable h r s) (ht : Step s s') : Reachable h r s'

/-! ## What a slot tells of its frame -/

/-- The slot of the `n`-th frame tells how far the frame has come. -/
structure Slotted (s : Transmission) (n : Nat) : Prop where
  waits : s.taken ≤ n → s.memory.status (n % s.ring.capacity) = sendRequest ∧
    s.accepted[n]? = some (s.memory.queued (n % s.ring.capacity))
  leaves : n < s.taken → ¬ s.IsFinished n → s.memory.status (n % s.ring.capacity) = sending
  finished : s.IsFinished n → s.memory.status (n % s.ring.capacity) = free ∨
    s.memory.status (n % s.ring.capacity) = wrongFormat

variable {s s' : Transmission} {n : Nat}

theorem Slotted.congr (hn : s.Slotted n)
    (hp : s'.memory.slot (n % s'.ring.capacity) = s.memory.slot (n % s.ring.capacity))
    (ha : s'.accepted[n]? = s.accepted[n]?) (ht : s'.taken ≤ n ↔ s.taken ≤ n)
    (hf : s'.IsFinished n ↔ s.IsFinished n) : s'.Slotted n := by
  have hs := status_congr hp
  refine ⟨fun h => ?_, fun h h' => ?_, fun h => ?_⟩
  · rw [hs, ha, queued_congr hp]
    exact hn.waits (ht.mp h)
  · rw [hs]
    exact hn.leaves (by omega) (mt hf.mpr h')
  · rw [hs]
    exact hn.finished (hf.mp h)

/-- The program may have the slot exactly if the kernel is done with the frame. -/
theorem Slotted.isClaimable_iff (hn : s.Slotted n) :
    IsClaimable s.memory (n % s.ring.capacity) ↔ s.IsFinished n := by
  constructor
  · intro hc
    by_cases ht : n < s.taken
    · by_cases hf : s.IsFinished n
      · exact hf
      · rw [IsClaimable, hn.leaves ht hf] at hc
        exact absurd hc (by decide)
    · rw [IsClaimable, (hn.waits (by omega)).1] at hc
      exact absurd hc (by decide)
  · intro hf
    rcases hn.finished hf with he | he
    · exact .inl he
    · rw [IsClaimable, he]
      exact .inr (by decide)

/-- The kernel is asked to send exactly the frames that it has not taken. -/
theorem Slotted.isSendRequest_iff (hn : s.Slotted n) :
    isSendRequest (s.memory.status (n % s.ring.capacity)) = true ↔ s.taken ≤ n := by
  constructor
  · intro hs
    refine Nat.le_of_not_lt fun ht => ?_
    by_cases hf : s.IsFinished n
    · rcases hn.finished hf with he | he <;> rw [he] at hs <;> exact absurd hs (by decide)
    · rw [hn.leaves ht hf] at hs
      exact absurd hs (by decide)
  · intro ht
    rw [(hn.waits ht).1]
    decide

/-! ## The invariant -/

/-- The slot at the cursor was never used, or its last frame is finished. -/
def IsVacant (s : Transmission) : Prop :=
  s.accepted.length < s.ring.capacity ∨ s.IsFinished (s.accepted.length - s.ring.capacity)

structure Inv (s : Transmission) : Prop where
  direction : s.ring.direction = .send
  capacity_pos : 0 < s.ring.capacity
  sendOffset_le : sendOffset ≤ s.ring.slotSize
  slotSize_lt : s.ring.slotSize < Nat.pow 256 4
  length_slot : ∀ i, i < s.ring.capacity → (s.memory.slot i).length = s.ring.slotSize
  orderly : IsOrderly s.origin.script
  script : s.host.script = s.origin.script
  inUse : s.ring.InUse s.host
  mapping : ∃ k, s.host.mappings[s.ring.mapping.number]? = some k ∧
    k.memory.count = s.ring.capacity ∧ k.nextSend = s.taken % s.ring.capacity
  origin_le : s.origin.ringFrames ≤ s.host.ringFrames
  taken_le : s.taken ≤ s.accepted.length
  sentFrames : s.host.sentFrames = s.origin.sentFrames ++ s.accepted.take s.taken
  cursor : s.ring.cursor = s.accepted.length % s.ring.capacity
  completed : ∀ n, n ∈ s.completed → n < s.taken
  /-- A frame more than a lap behind is finished. -/
  behind : ∀ n, n + s.ring.capacity < s.accepted.length → s.IsFinished n
  slotted : ∀ n, n < s.accepted.length → s.accepted.length ≤ n + s.ring.capacity → s.Slotted n
  unused : ∀ i, s.accepted.length ≤ i → i < s.ring.capacity → s.memory.status i = free
  held : ∀ slot, s.held = some slot → slot.index = s.ring.cursor ∧
    slot.status ≠ .sendRequested ∧ slot.frameBytes = sendCapacity s.ring.slotSize ∧ s.IsVacant

theorem Inv.start {r : Ring} {h : Host} (hf : r.Fresh h) (hd : r.direction = .send)
    (hs : sendOffset ≤ r.slotSize) (ho : IsOrderly h.script) (hu : r.InUse h) :
    Inv { origin := h, host := h, ring := r } := by
  obtain ⟨k, hk, hm, hn⟩ := hf.mapping
  refine ⟨hd, hf.capacity_pos, hs, hf.slotSize, ?_, ho, rfl, hu, ⟨k, hk, ?_, ?_⟩, Nat.le_refl _,
    ?_, ?_, ?_, nofun, nofun, nofun, ?_, nofun⟩
  · intro i hi
    simp only [memory, hf.memory, slot_zeroed _ hi, List.length_replicate]
  · simp [hm]
  · simp [hn, taken]
  · simp [taken]
  · simp
  · simp [hf.cursor]
  · intro i _ _
    simp only [memory, hf.memory, status_zeroed]

/-- Nothing on the host counts but what a ring can tell. -/
theorem Inv.congr {h h' : Host} (hr : h'.rings = h.rings) (hi : Inv { s with host := h }) :
    Inv { s with host := h' } := by
  obtain ⟨script, counts, sockets, mappings, ringFrames, signal, trace, log⟩ := h
  obtain ⟨script', counts', sockets', mappings', ringFrames', signal', trace', log'⟩ := h'
  obtain ⟨rfl, rfl, rfl, hs⟩ := Rings.mk.inj hr
  exact { hi with
    sentFrames := hs.trans hi.sentFrames
    slotted := fun n hn hl => (hi.slotted n hn hl).congr rfl rfl Iff.rfl Iff.rfl }

/-- The program may claim the slot at the cursor exactly if it is vacant. -/
theorem Inv.isClaimable_cursor_iff (hi : s.Inv) :
    IsClaimable s.memory s.ring.cursor ↔ s.IsVacant := by
  have hp := hi.capacity_pos
  unfold IsVacant
  by_cases hlt : s.accepted.length < s.ring.capacity
  · refine iff_of_true (.inl ?_) (.inl hlt)
    rw [hi.cursor, Nat.mod_eq_of_lt hlt]
    exact hi.unused _ (Nat.le_refl _) hlt
  · have hmod : s.ring.cursor = (s.accepted.length - s.ring.capacity) % s.ring.capacity := by
      rw [hi.cursor]
      exact Nat.mod_eq_sub_mod (by omega)
    rw [hmod, (hi.slotted _ (by omega) (by omega)).isClaimable_iff]
    exact ⟨.inr, fun h => h.resolve_left hlt⟩

/-- A frame that is not finished has a slot. -/
theorem Inv.slotted_of_not (hi : s.Inv) (hn : n < s.accepted.length) (hf : ¬ s.IsFinished n) :
    s.accepted.length ≤ n + s.ring.capacity ∧ s.Slotted n := by
  have hl : s.accepted.length ≤ n + s.ring.capacity :=
    Nat.le_of_not_lt fun hb => hf (hi.behind n hb)
  exact ⟨hl, hi.slotted n hn hl⟩

/-! ## The kernel stores a status word -/

theorem Inv.status_stored (hi : s.Inv) (n : Nat) {word : Nat}
    (hw : word = free ∨ word = sending ∨ word = wrongFormat) :
    (s.memory.setStatus (n % s.ring.capacity) word).status (n % s.ring.capacity) = word := by
  have hl := hi.length_slot (n % s.ring.capacity) (Nat.mod_lt _ hi.capacity_pos)
  have h32 := hi.sendOffset_le
  unfold sendOffset at h32
  rw [status_setStatus _ _ (by omega)]
  refine Nat.mod_eq_of_lt ?_
  rcases hw with rfl | rfl | rfl <;> decide

/-- A word that is stored for one frame leaves the slots of the other frames of the lap alone. -/
theorem slot_stored {n' : Nat} (hn : n < s.accepted.length ∧ s.accepted.length ≤ n +
    s.ring.capacity) (hn' : n' < s.accepted.length) (hl : s.accepted.length ≤ n' + s.ring.capacity)
    (hne : n' ≠ n) (word : Nat) :
    (s.memory.setStatus (n % s.ring.capacity) word).slot (n' % s.ring.capacity) =
      s.memory.slot (n' % s.ring.capacity) :=
  slot_setStatus_of_ne _ (mod_ne_mod_of_le hn ⟨hn', hl⟩ (Ne.symm hne)) _

theorem Inv.unused_stored (hi : s.Inv) (hn : n < s.accepted.length) (word : Nat) {i : Nat}
    (hi' : s.accepted.length ≤ i) (hi'' : i < s.ring.capacity) :
    (s.memory.setStatus (n % s.ring.capacity) word).status i = free := by
  have hne : n % s.ring.capacity ≠ i := by
    rw [Nat.mod_eq_of_lt (by omega)]
    omega
  rw [status_setStatus_of_ne _ hne]
  exact hi.unused i hi' hi''

/-! ## The kernel takes a frame -/

theorem Inv.next_waits (hi : s.Inv) {k : Mapping}
    (hk : s.host.mappings[s.ring.mapping.number]? = some k)
    (hs : isSendRequest (k.memory.status k.nextSend) = true) : s.taken < s.accepted.length := by
  obtain ⟨k', hk', hc, hn⟩ := hi.mapping
  cases hk.symm.trans hk'
  refine Nat.lt_of_le_of_ne hi.taken_le fun he => ?_
  have hm : s.memory = k.memory := memoryOf_eq hk
  rw [hn, ← hm, he] at hs
  -- The slot at the cursor is unused, or its frame was taken a lap ago.
  by_cases hlt : s.accepted.length < s.ring.capacity
  · rw [Nat.mod_eq_of_lt hlt, hi.unused _ (Nat.le_refl _) hlt] at hs
    exact absurd hs (by decide)
  · have hp := hi.capacity_pos
    rw [Nat.mod_eq_sub_mod (by omega),
      (hi.slotted _ (by omega) (by omega)).isSendRequest_iff] at hs
    omega

/-- The frame that the kernel takes next is the next one of those accepted. -/
theorem Inv.next_frame (hi : s.Inv) {k : Mapping}
    (hk : s.host.mappings[s.ring.mapping.number]? = some k) (hlt : s.taken < s.accepted.length) :
    s.accepted[s.taken]? = some (k.memory.queued k.nextSend) := by
  obtain ⟨k', hk', -, hn⟩ := hi.mapping
  cases hk.symm.trans hk'
  have hm : s.memory = k.memory := memoryOf_eq hk
  obtain ⟨-, hnext⟩ := hi.slotted_of_not hlt (fun hf => Nat.lt_irrefl _ hf.1)
  rw [hn, ← hm]
  exact (hnext.waits (Nat.le_refl _)).2

/-- What is finished stays finished while more frames are taken or completed. -/
theorem IsFinished.mono (hf : s.IsFinished n) (ht : s.taken ≤ s'.taken)
    (hw : s'.word n = s.word n) (hc : n ∈ s.completed → n ∈ s'.completed) : s'.IsFinished n :=
  ⟨Nat.lt_of_lt_of_le hf.1 ht, hf.2.imp (by rw [hw]; exact id) hc⟩

/-- The state after the kernel took the frame at its cursor. -/
def afterTake (s : Transmission) (socket : SocketId) (k : Mapping) : Transmission :=
  { s with host := s.host.takeNext socket s.ring.mapping k }

@[simp] theorem afterTake_origin (s : Transmission) (socket : SocketId) (k : Mapping) :
    (s.afterTake socket k).origin = s.origin := rfl

@[simp] theorem afterTake_ring (s : Transmission) (socket : SocketId) (k : Mapping) :
    (s.afterTake socket k).ring = s.ring := rfl

@[simp] theorem afterTake_accepted (s : Transmission) (socket : SocketId) (k : Mapping) :
    (s.afterTake socket k).accepted = s.accepted := rfl

theorem Inv.taken_afterTake (hi : s.Inv) (socket : SocketId) (k : Mapping) :
    (s.afterTake socket k).taken = s.taken + 1 :=
  Nat.sub_add_comm hi.origin_le

theorem Inv.mapping_afterTake (hi : s.Inv) (socket : SocketId) {k : Mapping}
    (hk : s.host.mappings[s.ring.mapping.number]? = some k) :
    (s.afterTake socket k).host.mappings[s.ring.mapping.number]? =
      some (k.took (s.taken % s.ring.capacity) s.ring.capacity (s.word s.taken)) := by
  obtain ⟨k', hk', hc, hn⟩ := hi.mapping
  cases hk.symm.trans hk'
  have hw : s.host.script.left s.host.ringFrames = s.word s.taken := by
    rw [word, hi.script, taken, Nat.add_sub_cancel' hi.origin_le]
  rw [afterTake, mapping_takeNext socket hk, hw, hn, hc]

theorem Inv.memory_afterTake (hi : s.Inv) (socket : SocketId) {k : Mapping}
    (hk : s.host.mappings[s.ring.mapping.number]? = some k) : (s.afterTake socket k).memory =
      s.memory.setStatus (s.taken % s.ring.capacity) (s.word s.taken) := by
  have hm : s.memory = k.memory := memoryOf_eq hk
  rw [hm]
  exact memoryOf_eq (hi.mapping_afterTake socket hk)

/-- The slot of the frame that was taken has the word that the kernel left behind. -/
theorem Inv.slotted_taken (hi : s.Inv) (socket : SocketId) {k : Mapping}
    (hk : s.host.mappings[s.ring.mapping.number]? = some k) :
    (s.afterTake socket k).Slotted s.taken := by
  have ht := hi.taken_afterTake socket k
  have ho : s.word s.taken = free ∨ s.word s.taken = sending ∨ s.word s.taken = wrongFormat :=
    hi.orderly (s.origin.ringFrames + s.taken)
  have hword : (s.afterTake socket k).memory.status (s.taken % s.ring.capacity) =
      s.word s.taken := by
    rw [hi.memory_afterTake socket hk]
    exact hi.status_stored s.taken ho
  refine ⟨fun h => by omega, fun _ hf => ?_, fun hf => ?_⟩
  · exact hword.trans (Decidable.byContradiction fun hne => hf ⟨by omega, .inl hne⟩)
  · have hne : s.word s.taken ≠ sending :=
      hf.2.resolve_right fun hc => Nat.lt_irrefl _ (hi.completed _ hc)
    exact ho.imp hword.trans fun h => hword.trans (h.resolve_left hne)

theorem Inv.take (hi : s.Inv) {socket : SocketId} {k : Mapping}
    (hk : s.host.mappings[s.ring.mapping.number]? = some k)
    (hs : isSendRequest (k.memory.status k.nextSend) = true) : (s.afterTake socket k).Inv := by
  have hlt := hi.next_waits hk hs
  have hm := hi.memory_afterTake socket hk
  have ht := hi.taken_afterTake socket k
  have hslot (i : Nat) : ((s.afterTake socket k).memory.slot i).length =
      (s.memory.slot i).length := by rw [hm, length_slot_setStatus]
  have hfin (n : Nat) (hne : n ≠ s.taken) :
      (s.afterTake socket k).IsFinished n ↔ s.IsFinished n := by
    unfold IsFinished
    rw [ht, show n < s.taken + 1 ↔ n < s.taken by omega]
    exact Iff.rfl
  have hmono (n : Nat) (hf : s.IsFinished n) : (s.afterTake socket k).IsFinished n :=
    hf.mono (by omega) rfl id
  obtain ⟨hlap, -⟩ := hi.slotted_of_not hlt (fun hf => Nat.lt_irrefl _ hf.1)
  obtain ⟨k', hk', hc, hn⟩ := hi.mapping
  cases hk.symm.trans hk'
  have hframe := hi.next_frame hk hlt
  refine { hi with
    mapping := ⟨_, hi.mapping_afterTake socket hk, ?_, ?_⟩
    length_slot := fun i h => (hslot i).trans (hi.length_slot i h)
    inUse := hi.inUse.congr rfl rfl
      (activeMapping?_takeNext socket s.ring.mapping k s.host · .send)
    origin_le := Nat.le_succ_of_le hi.origin_le
    taken_le := ht ▸ hlt
    sentFrames := ?_
    completed := fun n hn => ht ▸ Nat.lt_succ_of_lt (hi.completed n hn)
    behind := fun n hn => hmono n (hi.behind n hn)
    slotted := fun n hn hl => ?_
    unused := fun i hi' hi'' => ?_
    held := fun slot hslot => ?_ }
  · exact (count_setStatus _ _).trans hc
  · simp only [Mapping.took, mod_add_one_mod, ht, afterTake_ring]
  · rw [ht, afterTake_origin, afterTake_accepted, List.take_add_one, hframe,
      ← List.append_assoc, ← hi.sentFrames]
    exact sentFrames_takeNext socket s.ring.mapping k s.host
  · by_cases hne : n = s.taken
    · rw [hne]
      exact hi.slotted_taken socket hk
    · refine (hi.slotted n hn hl).congr ?_ rfl (by omega) (hfin n hne)
      rw [hm]
      exact slot_stored ⟨hlt, hlap⟩ hn hl hne _
  · rw [hm]
    exact hi.unused_stored hlt _ hi' hi''
  · obtain ⟨hx, hst, hb, hv⟩ := hi.held slot hslot
    exact ⟨hx, hst, hb, hv.imp_right (hmono _)⟩

/-! ## The kernel is done with a frame -/

/-- The state after the kernel stored the word of a frame that it is done with. -/
def afterComplete (s : Transmission) (n word : Nat) : Transmission :=
  { s with
    host := s.host.onMemory s.ring.mapping fun m => m.setStatus (n % s.ring.capacity) word
    completed := n :: s.completed }

@[simp] theorem afterComplete_ring (s : Transmission) (n word : Nat) :
    (s.afterComplete n word).ring = s.ring := rfl

@[simp] theorem afterComplete_accepted (s : Transmission) (n word : Nat) :
    (s.afterComplete n word).accepted = s.accepted := rfl

theorem Inv.memory_afterComplete (hi : s.Inv) (n word : Nat) : (s.afterComplete n word).memory =
    s.memory.setStatus (n % s.ring.capacity) word := by
  obtain ⟨k, hk, -⟩ := hi.mapping
  exact memoryOf_onMemory hk _

/-- The slot of the frame that the kernel is done with tells so. -/
theorem Inv.slotted_completed (hi : s.Inv) {word : Nat} (hn : n < s.taken)
    (hw : word = free ∨ word = wrongFormat) : (s.afterComplete n word).Slotted n := by
  have hdone : (s.afterComplete n word).IsFinished n := ⟨hn, .inr (List.mem_cons_self ..)⟩
  have hword : (s.afterComplete n word).memory.status (n % s.ring.capacity) = word := by
    rw [hi.memory_afterComplete]
    exact hi.status_stored n (hw.imp_right .inr)
  refine ⟨fun h => absurd hn (Nat.not_lt.mpr h), fun _ h => absurd hdone h, fun _ => ?_⟩
  exact hw.imp hword.trans hword.trans

theorem Inv.complete (hi : s.Inv) {word : Nat} (hn : n < s.taken) (hf : ¬ s.IsFinished n)
    (hw : word = free ∨ word = wrongFormat) : (s.afterComplete n word).Inv := by
  have hlt : n < s.accepted.length := Nat.lt_of_lt_of_le hn hi.taken_le
  have hm := hi.memory_afterComplete n word
  have hmono (n' : Nat) (hf : s.IsFinished n') : (s.afterComplete n word).IsFinished n' :=
    hf.mono (Nat.le_refl _) rfl (List.mem_cons_of_mem n)
  have hfin (n' : Nat) (hne : n' ≠ n) :
      (s.afterComplete n word).IsFinished n' ↔ s.IsFinished n' := by
    refine ⟨fun hf => ⟨hf.1, hf.2.imp_right fun hc => ?_⟩, hmono n'⟩
    exact (List.mem_cons.mp hc).resolve_left hne
  obtain ⟨hlap, -⟩ := hi.slotted_of_not hlt hf
  obtain ⟨k, hk, hc, hnext⟩ := hi.mapping
  refine { hi with
    mapping := ⟨_, mapping_onMemory hk _, (count_setStatus ..).trans hc, hnext⟩
    length_slot := fun i h => ?_
    inUse := hi.inUse.congr rfl rfl (activeMapping?_onMemory s.ring.mapping
      (·.setStatus (n % s.ring.capacity) word) s.host · .send)
    completed := fun n' hn' => ?_
    behind := fun n' hb => hmono n' (hi.behind n' hb)
    slotted := fun n' hn' hl => ?_
    unused := fun i hi' hi'' => ?_
    held := fun slot hslot => ?_ }
  · rw [hm, length_slot_setStatus]
    exact hi.length_slot i h
  · rcases List.mem_cons.mp hn' with rfl | hn'
    · exact hn
    · exact hi.completed n' hn'
  · by_cases hne : n' = n
    · rw [hne]
      exact hi.slotted_completed hn hw
    · refine (hi.slotted n' hn' hl).congr ?_ rfl Iff.rfl (hfin n' hne)
      rw [hm]
      exact slot_stored ⟨hlt, hlap⟩ hn' hl hne _
  · rw [hm]
    exact hi.unused_stored hlt _ hi' hi''
  · obtain ⟨hx, hst, hb, hv⟩ := hi.held slot hslot
    exact ⟨hx, hst, hb, hv.imp_right (hmono _)⟩

/-! ## The program submits a frame -/

/-- The state after a frame was put into a slot, before the kernel is asked to send. -/
def afterFill (s : Transmission) (i : Nat) (frame : Bytes) : Transmission :=
  { s with
    host := s.host.onMemory s.ring.mapping fun m => fill m i frame
    ring := s.ring.advance
    held := none
    accepted := s.accepted ++ [frame] }

theorem Inv.memory_afterFill (hi : s.Inv) (i : Nat) (frame : Bytes) :
    (s.afterFill i frame).memory = fill s.memory i frame := by
  obtain ⟨k, hk, -⟩ := hi.mapping
  exact memoryOf_onMemory hk _

/-- The slot of the frame that was put into it waits to be taken. -/
theorem Inv.slotted_filled (hi : s.Inv) {frame : Bytes}
    (hl : frame.length ≤ sendCapacity s.ring.slotSize) :
    (s.afterFill s.ring.cursor frame).Slotted s.accepted.length := by
  have hroom : sendOffset + frame.length ≤ (s.memory.slot s.ring.cursor).length := by
    have := hi.sendOffset_le
    rw [hi.length_slot _ (hi.cursor ▸ Nat.mod_lt _ hi.capacity_pos)]
    unfold sendCapacity at hl
    omega
  have hsize : frame.length < Nat.pow 256 4 := by
    have := hi.slotSize_lt
    unfold sendCapacity at hl
    omega
  have hcursor : s.accepted.length % (s.afterFill s.ring.cursor frame).ring.capacity =
      s.ring.cursor := hi.cursor.symm
  have hnot : ¬ s.accepted.length < s.taken := Nat.not_lt.mpr hi.taken_le
  refine ⟨fun _ => ?_, fun h => absurd h hnot, fun h => absurd h.1 hnot⟩
  rw [hi.memory_afterFill, hcursor, queued_fill hroom hsize]
  exact ⟨status_fill (Nat.lt_of_lt_of_le (Nat.add_pos_left (by decide) _) hroom) frame,
    List.getElem?_concat_length⟩

theorem Inv.fill (hi : s.Inv) (hv : s.IsVacant) {frame : Bytes}
    (hl : frame.length ≤ sendCapacity s.ring.slotSize) :
    (s.afterFill s.ring.cursor frame).Inv := by
  have hm := hi.memory_afterFill s.ring.cursor frame
  have hlen : (s.afterFill s.ring.cursor frame).accepted.length = s.accepted.length + 1 :=
    List.length_append
  have hcap : (s.afterFill s.ring.cursor frame).ring.capacity = s.ring.capacity := rfl
  obtain ⟨k, hk, hc, hnext⟩ := hi.mapping
  refine { hi with
    mapping := ⟨_, mapping_onMemory hk (Ring.fill · s.ring.cursor frame),
      (count_fill ..).trans hc, hnext⟩
    length_slot := fun i h => ?_
    inUse := hi.inUse.congr rfl rfl (activeMapping?_onMemory s.ring.mapping
      (Ring.fill · s.ring.cursor frame) s.host · .send)
    taken_le := by rw [hlen]; exact Nat.le_succ_of_le hi.taken_le
    sentFrames := ?_
    cursor := ?_
    behind := fun n hb => ?_
    slotted := fun n hn hn' => ?_
    unused := fun i hi' hi'' => ?_
    held := nofun }
  · rw [hm, length_slot_fill]
    exact hi.length_slot i h
  · refine hi.sentFrames.trans ?_
    have htake : (s.accepted ++ [frame]).take s.taken = s.accepted.take s.taken :=
      List.take_append_of_le_length hi.taken_le
    rw [← htake]
    rfl
  · rw [hlen, hcap, ← mod_add_one_mod, ← hi.cursor]
    rfl
  · rw [hlen, hcap] at hb
    -- The frame that had the slot before is finished, or else the slot would not be vacant.
    by_cases hn : n + s.ring.capacity < s.accepted.length
    · exact hi.behind n hn
    · rw [show n = s.accepted.length - s.ring.capacity by omega]
      exact hv.resolve_left (by omega)
  · rw [hlen] at hn hn'
    rw [hcap] at hn'
    by_cases hne : n = s.accepted.length
    · rw [hne]
      exact hi.slotted_filled hl
    · have hother : s.ring.cursor ≠ n % s.ring.capacity := by
        rw [hi.cursor]
        exact mod_ne_mod_of_le (a := s.accepted.length + 1) (by omega) (by omega) (Ne.symm hne)
      refine (hi.slotted n (by omega) (by omega)).congr ?_ ?_ Iff.rfl Iff.rfl
      · rw [hm]
        exact slot_fill_of_ne hother s.memory frame
      · exact List.getElem?_append_left (by omega)
  · rw [hlen] at hi'
    rw [hcap] at hi''
    have hne : s.ring.cursor ≠ i := by
      rw [hi.cursor, Nat.mod_eq_of_lt (by omega)]
      omega
    rw [hm, status_congr (slot_fill_of_ne hne s.memory frame)]
    exact hi.unused i (by omega) hi''

/-- Asking the kernel to send only makes it take frames. -/
theorem Inv.notified (hi : s.Inv) : Inv { s with host := s.ring.notified s.host } := by
  unfold Ring.notified
  cases hs : s.ring.socket with
  | none => exact hi
  | some socket =>
    refine flush_induction (P := fun h => Inv { s with host := h }) ?_ ?_ s.host hi
    · intro h h' hr hi
      exact hi.congr hr
    · intro h id k hid hi hk hreq
      cases hi.inUse socket hs id hid
      exact hi.take hk hreq

theorem Inv.submit (hi : s.Inv) {slot : Slot} {frame : Bytes} {answer : Except LinkError Unit}
    {r : Ring} {h : Host} (hs : s.held = some slot)
    (hr : (s.ring.submitWrite slot frame).run s.host = ((answer, r), h)) :
    Inv { s with
      host := h, ring := r
      held := if isQueued answer then none else some slot
      accepted := if isQueued answer then s.accepted ++ [frame] else s.accepted } := by
  obtain ⟨hx, hst, hb, hv⟩ := hi.held slot hs
  by_cases hl : frame.length ≤ slot.frameBytes
  · obtain ⟨answer', hq, hrun⟩ :=
      submitWrite_run ((submitRefusal?_eq_none hi.direction hx hst).mpr hl) s.host
    rw [hrun, hx] at hr
    obtain ⟨hans, rfl⟩ := Prod.mk.inj hr
    obtain ⟨rfl, rfl⟩ := Prod.mk.inj hans
    rw [if_pos hq, if_pos hq]
    exact (hi.fill hv (hb ▸ hl)).notified
  · cases he : s.ring.submitRefusal? slot frame with
    | none => exact absurd ((submitRefusal?_eq_none hi.direction hx hst).mp he) hl
    | some e =>
      have hq := isQueued_refusal he
      rw [submitWrite_run_refused he] at hr
      obtain ⟨hans, rfl⟩ := Prod.mk.inj hr
      obtain ⟨rfl, rfl⟩ := Prod.mk.inj hans
      simp only [hq, Bool.false_eq_true, if_false]
      rw [← hs]
      exact hi

/-! ## Every turn -/

theorem Inv.acquire (hi : s.Inv) {slot? : Option Slot} {h : Host}
    (ha : s.ring.acquireWrite.run s.host = (.ok slot?, h)) :
    Inv { s with host := h, held := slot? } := by
  rw [acquireWrite_run hi.direction] at ha
  obtain ⟨hok, rfl⟩ := Prod.mk.inj ha
  have hw : s.ring.writeSlot? s.memory = slot? := Except.ok.inj hok
  refine { hi with
    slotted := fun n hn hl => (hi.slotted n hn hl).congr rfl rfl Iff.rfl Iff.rfl
    held := fun slot hslot => ?_ }
  obtain ⟨hc, hx, -, hst, hb⟩ := writeSlot?_eq_some (hw.trans hslot)
  exact ⟨hx, hst, hb, hi.isClaimable_cursor_iff.mp hc⟩

theorem Inv.step (hi : s.Inv) (ht : Step s s') : s'.Inv := by
  cases ht with
  | acquire ha => exact hi.acquire ha
  | submit hs hr => exact hi.submit hs hr
  | take hk hs => exact hi.take hk hs
  | complete hn hf hw => exact hi.complete hn hf hw
  | other hr => exact hi.congr hr

theorem Reachable.inv {h : Host} {r : Ring} (hf : r.Fresh h) (hd : r.direction = .send)
    (hs : sendOffset ≤ r.slotSize) (ho : IsOrderly h.script) (hu : r.InUse h)
    (hr : Reachable h r s) : s.Inv := by
  induction hr with
  | start => exact Inv.start hf hd hs ho hu
  | step _ ht ih => exact ih.step ht

/-! ## What a transmission is good for -/

/-- Only frames of the last lap are not completed. -/
theorem Inv.uncompleted_eq (hi : s.Inv) : s.uncompleted =
    (List.range (min s.accepted.length s.ring.capacity)).countP fun n =>
      ¬ s.IsFinished (s.accepted.length - s.ring.capacity + n) := by
  have hsplit : s.accepted.length = s.accepted.length - s.ring.capacity +
      min s.accepted.length s.ring.capacity := by omega
  have hold : (List.range (s.accepted.length - s.ring.capacity)).countP
      (fun n => decide (¬ s.IsFinished n)) = 0 := by
    refine List.countP_eq_zero.mpr fun n hn => ?_
    rw [List.mem_range] at hn
    simpa using hi.behind n (by omega)
  unfold uncompleted
  rw [hsplit, List.range_add, List.countP_append, ← hsplit, hold, Nat.zero_add, List.countP_map]
  rfl

theorem Inv.uncompleted_le (hi : s.Inv) : s.uncompleted ≤ s.ring.capacity := by
  rw [hi.uncompleted_eq]
  refine Nat.le_trans List.countP_le_length ?_
  rw [List.length_range]
  exact Nat.min_le_right _ _

/-- With one frame a slot that is not completed, the slot at the cursor has such a frame. -/
theorem Inv.not_isVacant (hi : s.Inv) (hu : s.uncompleted = s.ring.capacity) :
    ¬ s.IsVacant := by
  have hp := hi.capacity_pos
  rw [hi.uncompleted_eq] at hu
  have hle := List.countP_le_length (l := List.range (min s.accepted.length s.ring.capacity))
    (p := fun n => decide (¬ s.IsFinished (s.accepted.length - s.ring.capacity + n)))
  rw [hu, List.length_range] at hle
  have hall := List.countP_eq_length.mp (hu.trans (by rw [List.length_range]; omega))
  have hfirst := hall 0 (List.mem_range.mpr (by omega))
  rintro (hlt | hf)
  · omega
  · exact of_decide_eq_true hfirst hf

/-- Frames pass through the ring in order, none is lost, doubled or altered, and there are at most
as many on the way as there are slots. -/
structure Lossless (s : Transmission) : Prop where
  taken_le : s.taken ≤ s.accepted.length
  /-- The frames that left are the first ones accepted. -/
  sent_eq : s.sent = s.accepted.take s.taken
  cursor : s.ring.cursor = s.accepted.length % s.ring.capacity
  uncompleted_le : s.uncompleted ≤ s.ring.capacity
  /-- With one frame a slot on the way, no slot can be claimed. -/
  full : s.uncompleted = s.ring.capacity → s.ring.acquireWrite.run s.host = (.ok none, s.host)
  /-- A slot can be claimed exactly if the one at the cursor was never used or its last frame is
  finished. -/
  acquire_iff : (∃ slot, s.ring.acquireWrite.run s.host = (.ok (some slot), s.host)) ↔ s.IsVacant

theorem Inv.acquire_iff (hi : s.Inv) :
    (∃ slot, s.ring.acquireWrite.run s.host = (.ok (some slot), s.host)) ↔ s.IsVacant := by
  rw [acquireWrite_run hi.direction, ← hi.isClaimable_cursor_iff]
  have hn := writeSlot?_eq_none_iff (r := s.ring) (m := s.memory)
  unfold memory at hn ⊢
  cases hw : s.ring.writeSlot? (s.ring.memory s.host) with
  | none =>
    refine iff_of_false ?_ (hn.mp hw)
    rintro ⟨slot, he⟩
    cases Except.ok.inj (Prod.mk.inj he).1
  | some slot =>
    refine iff_of_true ⟨slot, rfl⟩ (Decidable.byContradiction fun hc => ?_)
    cases hw.symm.trans (hn.mpr hc)

/-- A ring for sending is a lossless queue, however the program and the kernel take turns and
whether or not asking the kernel to send succeeds. -/
theorem transmission_lossless {h : Host} {r : Ring} (hf : r.Fresh h) (hd : r.direction = .send)
    (hs : sendOffset ≤ r.slotSize) (ho : IsOrderly h.script) (hu : r.InUse h)
    (hr : Reachable h r s) : s.Lossless := by
  have hi := hr.inv hf hd hs ho hu
  refine ⟨hi.taken_le, ?_, hi.cursor, hi.uncompleted_le, fun hfull => ?_, hi.acquire_iff⟩
  · rw [sent, hi.sentFrames, List.drop_left]
  · have hn := mt hi.isClaimable_cursor_iff.mp (hi.not_isVacant hfull)
    rw [acquireWrite_run hi.direction]
    exact congrArg (Except.ok ·, s.host) (writeSlot?_eq_none_iff.mpr hn)

/-- A frame is submitted, taken as the kernel is asked to send, and completed later. -/
theorem transmission_lossless_pair : ∃ s : Transmission,
    Reachable (pairHost .send (some ⟨⟨0⟩⟩) { sentStatus := [sending] })
        (pair .send (some ⟨⟨0⟩⟩)) s ∧
      s.accepted.length = 1 ∧ s.taken = 1 ∧ s.completed = [0] ∧ s.Lossless := by
  have ho : IsOrderly { sentStatus := [sending] } := by
    intro n
    match n with
    | 0 => exact .inr (.inl rfl)
    | _ + 1 => exact .inl rfl
  have h₁ := (Reachable.start (h := pairHost .send (some ⟨⟨0⟩⟩) { sentStatus := [sending] })
    (r := pair .send (some ⟨⟨0⟩⟩))).step (.acquire (acquireWrite_run rfl _))
  have hslot : (pair .send (some ⟨⟨0⟩⟩)).writeSlot? ((pair .send (some ⟨⟨0⟩⟩)).memory
      (pairHost .send (some ⟨⟨0⟩⟩) { sentStatus := [sending] })) =
        some ⟨0, .ownedByUser, 0, 32, 96, 0⟩ := by decide +kernel
  have hfits : (pair .send (some ⟨⟨0⟩⟩)).submitRefusal? ⟨0, .ownedByUser, 0, 32, 96, 0⟩ [1, 2, 3] =
      none := by decide
  obtain ⟨answer, hq, hrun⟩ := submitWrite_run hfits (pairHost .send _ _)
  have h₂ := h₁.step (.submit hslot hrun)
  rw [if_pos hq, if_pos hq] at h₂
  have h₃ := h₂.step (.complete (n := 0) (by decide +kernel) (by decide +kernel) (.inl rfl))
  exact ⟨_, h₃, rfl, by decide +kernel, rfl, transmission_lossless (pair_fresh .send _ _) rfl
    (by decide) ho (pair_inUse _ _) h₃⟩

end Transmission

end PacketLink.Ring
