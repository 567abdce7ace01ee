import PacketLink.Proofs.Ring.Operations

/-!
# Rings in any hands

The kernel may write into the slots of a ring whatever it likes, and the program may use the ring in
any order.

* `SlotMemory.shape`: how many slots there are and how long each is. No access to slots changes it.
* `Backed`: the slots that a ring says it has are there, and the cursor is at one of them.
* `Used`: what can have become of a ring and its host. A ring that was made is backed, and stays so
  however it is used and whatever the kernel writes (`Used.backed`).
-/

namespace PacketLink

/-! ## The shape of slots -/

/-- The length of every slot. -/
def SlotMemory.shape (m : SlotMemory) : Array Nat := m.slots.map List.length

namespace SlotMemory

variable {m m' : SlotMemory}

@[simp] theorem size_shape (m : SlotMemory) : m.shape.size = m.count := Array.size_map

theorem getD_shape (m : SlotMemory) (i : Nat) : m.shape.getD i 0 = (m.slot i).length := by
  by_cases hi : i < m.slots.size <;> simp [shape, slot, hi]

theorem count_of_shape (h : m'.shape = m.shape) : m'.count = m.count := by
  rw [← size_shape, h, size_shape]

theorem length_slot_of_shape (h : m'.shape = m.shape) (i : Nat) :
    (m'.slot i).length = (m.slot i).length := by
  rw [← getD_shape, h, getD_shape]

@[simp] theorem shape_write (m : SlotMemory) (i o : Nat) (bytes : Bytes) :
    (m.write i o bytes).shape = m.shape := by
  apply Array.ext
  · simp
  · intro j h h'
    have hj := length_slot_write m (i := i) (j := j) o bytes
    rw [← getD_shape, ← getD_shape, Array.getD_eq_getD_getElem?, Array.getD_eq_getD_getElem?,
      Array.getElem?_eq_getElem h, Array.getElem?_eq_getElem h'] at hj
    exact hj

@[simp] theorem shape_setStatus (m : SlotMemory) (i v : Nat) :
    (m.setStatus i v).shape = m.shape := shape_write ..

@[simp] theorem shape_fill (m : SlotMemory) (i : Nat) (frame : Bytes) :
    (Ring.fill m i frame).shape = m.shape := by
  simp [Ring.fill, setWord]

end SlotMemory

namespace Host

variable {α : Type} {h h' : Host} {part : SlotMemory → α}

/-- What a change of mappings leaves of their memory, it leaves of the memory of each. -/
theorem memory_of_modify (change : Mapping → Mapping) {i : Nat}
    (hm : h'.mappings = h.mappings.modify i change)
    (hc : ∀ k, part (change k).memory = part k.memory) (id : MappingId) :
    part (h'.memoryOf id) = part (h.memoryOf id) := by
  simp only [memoryOf, hm, Array.getElem?_modify]
  cases h.mappings[id.number]? with
  | none => simp
  | some k => by_cases hi : i = id.number <;> simp [hi, hc]

theorem memory_of_rings (hr : h'.rings = h.rings) (id : MappingId) :
    part (h'.memoryOf id) = part (h.memoryOf id) := by
  rw [memoryOf_congr (congrArg Rings.mappings hr)]

/-- What status words do not matter to stays as it is when the kernel is asked to send. -/
theorem flush_memory (hp : ∀ m i v, part (m.setStatus i v) = part m) (s : SocketId)
    (id : MappingId) (h : Host) :
    part (((flush s).run h).2.memoryOf id) = part (h.memoryOf id) := by
  refine flush_induction (P := fun h' => part (h'.memoryOf id) = part (h.memoryOf id))
    (fun _ _ hr he => (memory_of_rings hr id).trans he) (fun h₁ id' k _ he _ _ => ?_) h rfl
  exact (memory_of_modify _ (h₁.mappings_takeNext s id' k) (fun _ => hp ..) id).trans he

end Host

namespace Ring

open Host SlotMemory

variable {r r₀ : Ring} {h h₀ h' : Host}

/-! ## Backed rings -/

/-- The slots of a ring are there, and the cursor is at one of them. -/
structure Backed (r : Ring) (h : Host) : Prop where
  count : (r.memory h).count = r.capacity
  size : ∀ i, i < r.capacity → ((r.memory h).slot i).length = r.slotSize
  cursor_lt : r.cursor < r.capacity

theorem Blank.backed (hf : r.Blank h) : r.Backed h where
  count := by rw [hf.memory, count_zeroed]
  size i hi := by rw [hf.memory, slot_zeroed _ hi, List.length_replicate]
  cursor_lt := by rw [hf.cursor]; exact hf.capacity_pos

theorem Backed.length_cursor (hb : r.Backed h) :
    ((r.memory h).slot r.cursor).length = r.slotSize := hb.size _ hb.cursor_lt

theorem Backed.of_shape (hb : r.Backed h) (hs : (r.memory h').shape = (r.memory h).shape) :
    r.Backed h' where
  count := (count_of_shape hs).trans hb.count
  size i hi := (length_slot_of_shape hs i).trans (hb.size i hi)
  cursor_lt := hb.cursor_lt

theorem Backed.cursor_lt_count (hb : r.Backed h) : r.cursor < (r.memory h).count :=
  Nat.lt_of_lt_of_eq hb.cursor_lt hb.count.symm

theorem Backed.advance (hb : r.Backed h) : r.advance.Backed h where
  count := hb.count
  size := hb.size
  cursor_lt := Nat.mod_lt _ (Nat.zero_lt_of_lt hb.cursor_lt)

/-! ## Rings in use -/

/-- What can have become of a ring and its host. The kernel writes into the slots, header, status
and data alike, while anything else may change on the host; and the operations of the ring are
called, whatever they answer. -/
inductive Used (r₀ : Ring) (h₀ : Host) : Ring → Host → Prop where
  | made : Used r₀ h₀ r₀ h₀
  | written {r : Ring} {h h' : Host} (hu : Used r₀ h₀ r h)
      (hw : (r.memory h').shape = (r.memory h).shape) : Used r₀ h₀ r h'
  | acquired {r : Ring} {h : Host} (hu : Used r₀ h₀ r h) :
    Used r₀ h₀ (r.acquireRead.run h).1.2 (r.acquireRead.run h).2
  | released {r : Ring} {h : Host} (hu : Used r₀ h₀ r h) :
    Used r₀ h₀ (r.releaseRead.run h).1.2 (r.releaseRead.run h).2
  | submitted {r : Ring} {h : Host} (hu : Used r₀ h₀ r h) (slot : Slot) (frame : Bytes) :
    Used r₀ h₀ ((r.submitWrite slot frame).run h).1.2 ((r.submitWrite slot frame).run h).2

theorem acquireRead_refused (hd : r.direction = .send) (h : Host) :
    r.acquireRead.run h = ((.error (.ringProtocol "acquire_for_read on a TX ring"), r), h) := by
  simp only [acquireRead, hd, run_pure]

theorem Backed.acquired (hb : r.Backed h) :
    (r.acquireRead.run h).1.2.Backed (r.acquireRead.run h).2 := by
  cases hd : r.direction with
  | send =>
    rw [acquireRead_refused hd]
    exact hb
  | receive =>
    obtain ⟨h', hrun, hrings⟩ := acquireRead_run hd h
    have hb' : r.Backed h' := hb.of_shape (memory_of_rings hrings r.mapping)
    rw [hrun]
    unfold afterAcquire
    split
    · exact hb'
    · exact ⟨hb'.count, hb'.size, hb'.cursor_lt⟩

theorem Backed.released (hb : r.Backed h) :
    (r.releaseRead.run h).1.2.Backed (r.releaseRead.run h).2 := by
  cases hc : r.claimed with
  | false =>
    rw [releaseRead_run_unclaimed hc]
    exact hb
  | true =>
    rw [releaseRead_run hc]
    have hb' : r.Backed (h.onMemory r.mapping fun m => m.setStatus r.cursor free) :=
      hb.of_shape (memory_of_modify _ (h.mappings_onMemory ..) (fun _ => shape_setStatus ..) _)
    exact Backed.advance ⟨hb'.count, hb'.size, hb'.cursor_lt⟩

theorem notified_memory {α : Type} {part : SlotMemory → α}
    (hp : ∀ m i v, part (m.setStatus i v) = part m) (r : Ring) (id : MappingId) (h : Host) :
    part ((r.notified h).memoryOf id) = part (h.memoryOf id) := by
  unfold notified
  split
  · rfl
  · exact flush_memory hp ..

theorem Backed.submitted (hb : r.Backed h) (slot : Slot) (frame : Bytes) :
    ((r.submitWrite slot frame).run h).1.2.Backed ((r.submitWrite slot frame).run h).2 := by
  cases hr : r.submitRefusal? slot frame with
  | some e =>
    rw [submitWrite_run_refused hr]
    exact hb
  | none =>
    obtain ⟨answer, -, hrun⟩ := submitWrite_run hr h
    rw [hrun]
    refine (hb.of_shape ((notified_memory shape_setStatus r r.mapping _).trans ?_)).advance
    exact memory_of_modify _ (h.mappings_onMemory ..) (fun _ => shape_fill ..) _

theorem acquireRead_direction (r : Ring) :
    Gives (fun a => a.2.direction = r.direction) r.acquireRead := by
  intro h
  cases hd : r.direction with
  | send => rw [acquireRead_refused hd, hd]
  | receive =>
    obtain ⟨h', hrun, -⟩ := acquireRead_run hd h
    rw [hrun]
    unfold afterAcquire
    split <;> exact hd

theorem releaseRead_direction (r : Ring) :
    Gives (fun a => a.2.direction = r.direction) r.releaseRead := by
  intro h
  cases hc : r.claimed with
  | false => rw [releaseRead_run_unclaimed hc]
  | true =>
    rw [releaseRead_run hc]
    rfl

theorem submitWrite_direction (r : Ring) (slot : Slot) (frame : Bytes) :
    Gives (fun a => a.2.direction = r.direction) (r.submitWrite slot frame) := by
  intro h
  cases hr : r.submitRefusal? slot frame with
  | some e => rw [submitWrite_run_refused hr]
  | none =>
    obtain ⟨answer, -, hrun⟩ := submitWrite_run hr h
    rw [hrun]
    rfl

theorem Used.direction_eq (hu : Used r₀ h₀ r h) : r.direction = r₀.direction := by
  induction hu with
  | made => rfl
  | written _ _ ih => exact ih
  | acquired _ ih => exact (acquireRead_direction _ _).trans ih
  | released _ ih => exact (releaseRead_direction _ _).trans ih
  | submitted _ slot frame ih => exact (submitWrite_direction _ slot frame _).trans ih

/-- A ring stays backed however it is used. -/
theorem Used.backed (hu : Used r₀ h₀ r h) (hf : r₀.Blank h₀) : r.Backed h := by
  induction hu with
  | made => exact hf.backed
  | written _ hw ih => exact ih.of_shape hw
  | acquired _ ih => exact ih.acquired
  | released _ ih => exact ih.released
  | submitted _ slot frame ih => exact ih.submitted slot frame

end Ring

end PacketLink
