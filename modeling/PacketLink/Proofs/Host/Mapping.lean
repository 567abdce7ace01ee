import PacketLink.Proofs.Host.Slots

/-!
# Slots as one stretch of bytes

The slots of a ring lie one after the other in a mapping, and a program sees them as one stretch of
bytes: slot `i` of `size` bytes begins at the address `i * size`.

* `SlotMemory.contents`: that stretch.
* `read_eq_contents`: reading inside a slot is reading at its address.
* `contents_write`: writing inside a slot is writing at its address.
-/

namespace PacketLink.SlotMemory

variable {m : SlotMemory} {size i o n : Nat} {bytes : Bytes}

/-- The bytes of all slots, one slot after the other. -/
def contents (m : SlotMemory) : Bytes := m.slots.toList.flatten

/-- All slots have so many bytes. -/
def IsUniform (m : SlotMemory) (size : Nat) : Prop := ∀ i, i < m.count → (m.slot i).length = size

theorem IsUniform.of_mem (hm : m.IsUniform size) {page : Bytes} (hp : page ∈ m.slots.toList) :
    page.length = size := by
  obtain ⟨i, hi, rfl⟩ := List.getElem_of_mem hp
  have hi' : i < m.slots.size := by simpa using hi
  have hl := hm i hi'
  simpa [slot, hi'] using hl

/-- Pages of one length lie at the multiples of that length. -/
theorem getElem?_flatten {pages : List Bytes} (hp : ∀ page ∈ pages, page.length = size) {x : Nat}
    (hx : x < size) (i : Nat) : pages.flatten[i * size + x]? = (pages.getD i [])[x]? := by
  induction pages generalizing i with
  | nil => simp
  | cons page rest ih =>
    have hl : page.length = size := hp page (List.mem_cons_self ..)
    rw [List.flatten_cons]
    cases i with
    | zero =>
      rw [Nat.zero_mul, Nat.zero_add, List.getElem?_append_left (by omega), List.getD_cons_zero]
    | succ i =>
      have hnext := ih (fun page' h => hp page' (List.mem_cons_of_mem _ h)) i
      rw [Nat.succ_mul, List.getElem?_append_right (by omega), List.getD_cons_succ, ← hnext, hl]
      congr 1
      omega

theorem getElem?_contents (hm : m.IsUniform size) {x : Nat} (hx : x < size) (i : Nat) :
    m.contents[i * size + x]? = (m.slot i)[x]? := by
  have hpage : m.slots.toList.getD i [] = m.slot i := by
    simp [slot, Array.getD_eq_getD_getElem?]
  rw [contents, getElem?_flatten (fun _ hp => hm.of_mem hp) hx, hpage]

theorem length_contents (hm : m.IsUniform size) : m.contents.length = m.count * size := by
  have hsum (pages : List Bytes) (hp : ∀ page ∈ pages, page.length = size) :
      pages.flatten.length = pages.length * size := by
    induction pages with
    | nil => simp
    | cons page rest ih =>
      rw [List.flatten_cons, List.length_append, hp page (List.mem_cons_self ..),
        ih fun page' h => hp page' (List.mem_cons_of_mem _ h), List.length_cons, Nat.succ_mul,
        Nat.add_comm]
  rw [contents, hsum _ fun _ hp => hm.of_mem hp, Array.length_toList, count]

/-- A slot that exists ends inside the stretch. -/
theorem end_le_length_contents (hm : m.IsUniform size) (hi : i < m.count) :
    (i + 1) * size ≤ m.contents.length := by
  rw [length_contents hm]
  exact Nat.mul_le_mul_right size hi

/-- Bytes inside a slot are read at the address of the slot. -/
theorem read_eq_contents (hm : m.IsUniform size) (h : o + n ≤ size) :
    m.read i o n = (m.contents.drop (i * size + o)).take n := by
  apply List.ext_getElem?
  intro x
  by_cases hx : x < n
  · rw [read, List.getElem?_take_of_lt hx, List.getElem?_take_of_lt hx, List.getElem?_drop,
      List.getElem?_drop, Nat.add_assoc, getElem?_contents hm (by omega)]
  · rw [read, List.getElem?_eq_none (by simp; omega), List.getElem?_eq_none (by simp; omega)]

theorem isUniform_write (hm : m.IsUniform size) (i o : Nat) (bytes : Bytes) :
    (m.write i o bytes).IsUniform size := by
  intro j hj
  rw [length_slot_write]
  exact hm j (count_write m i o bytes ▸ hj)

theorem length_contents_write (hm : m.IsUniform size) (i o : Nat) (bytes : Bytes) :
    (m.write i o bytes).contents.length = m.contents.length := by
  rw [length_contents (isUniform_write hm i o bytes), length_contents hm, count_write]

/-- Bytes inside a slot are written at the address of the slot, and nowhere else. -/
theorem contents_write (hm : m.IsUniform size) (hi : i < m.count) (h : o + bytes.length ≤ size) :
    (m.write i o bytes).contents = overlay m.contents (i * size + o) bytes := by
  apply List.ext_getElem?
  intro p
  by_cases hp : p < m.contents.length
  · have hlen := length_contents hm
    have hpos : 0 < size := by
      refine Nat.pos_of_ne_zero fun hz => ?_
      rw [hz, Nat.mul_zero] at hlen
      omega
    -- The position is byte `x` of slot `j`.
    obtain ⟨j, x, hx, rfl⟩ : ∃ j x, x < size ∧ p = j * size + x :=
      ⟨p / size, p % size, Nat.mod_lt _ hpos, (Nat.div_add_mod' p size).symm⟩
    rw [getElem?_contents (isUniform_write hm i o bytes) hx, getElem?_overlay]
    by_cases hj : i = j
    · subst hj
      rw [slot_write_self, getElem?_overlay, hm i hi, getElem?_contents hm hx]
      by_cases hin : o ≤ x ∧ x < o + bytes.length
      · rw [if_pos ⟨hin.1, hin.2, hx⟩, if_pos ⟨by omega, by omega, hp⟩]
        congr 1
        omega
      · rw [if_neg (by omega), if_neg (by omega)]
    · have hout : ¬ (i * size + o ≤ j * size + x ∧ j * size + x < i * size + o + bytes.length ∧
          j * size + x < m.contents.length) := by
        rcases Nat.lt_or_gt_of_ne hj with hlt | hlt
        · have := Nat.mul_le_mul_right size (Nat.succ_le_of_lt hlt)
          rw [Nat.succ_mul] at this
          omega
        · have := Nat.mul_le_mul_right size (Nat.succ_le_of_lt hlt)
          rw [Nat.succ_mul] at this
          omega
      rw [if_neg hout, slot_write_of_ne m hj, getElem?_contents hm hx]
  · rw [List.getElem?_eq_none (by rw [length_contents_write hm]; omega),
      List.getElem?_eq_none (by rw [length_overlay]; omega)]

end PacketLink.SlotMemory
