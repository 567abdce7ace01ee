import PacketLink.Host.SlotMemory

/-!
# Reading slots after writing them

The page of a slot (`SlotMemory.slot`) is the view: whatever is read from a slot depends on its
page alone (`read_congr`, `status_congr`, `queued_congr`).

* `getElem?_overlay`: a write changes the bytes that it covers, as far as the page reaches, and no
  others. From it, a read apart from the write finds what was there (`read_write_of_disjoint`).
* `status_setStatus`: a stored status word is read back modulo 2^64, and from a page that is too
  short for it modulo less (`status_setStatus_min`).
* `deliver` and its parts keep the number and the length of the slots (`length_slot_write`).
-/

namespace PacketLink.SlotMemory

variable (m : SlotMemory) {i j : Nat}

/-! ## Pages -/

theorem getElem?_overlay (page : Bytes) (o : Nat) (bytes : Bytes) (x : Nat) :
    (overlay page o bytes)[x]? =
      if o ≤ x ∧ x < o + bytes.length ∧ x < page.length then bytes[x - o]? else page[x]? := by
  unfold overlay
  rw [List.append_assoc]
  by_cases hx : x < page.length
  · by_cases ho : x < o
    · rw [List.getElem?_append_left (by rw [List.length_take]; omega), if_neg (by omega),
        List.getElem?_take_of_lt ho]
    · rw [List.getElem?_append_right (by rw [List.length_take]; omega),
        List.length_take, Nat.min_eq_left (by omega)]
      by_cases hb : x < o + bytes.length
      · rw [if_pos (by omega), List.getElem?_append_left (by rw [List.length_take]; omega),
          List.getElem?_take_of_lt (by omega)]
      · rw [if_neg (by omega), List.getElem?_append_right (by rw [List.length_take]; omega),
          List.length_take, List.getElem?_drop]
        congr 1
        omega
  · rw [if_neg (by omega), List.getElem?_eq_none (by simp; omega),
      List.getElem?_eq_none (by omega)]

/-- Bytes of a page apart from those that are written over. -/
theorem take_drop_overlay (page : Bytes) (o : Nat) (bytes : Bytes) (k n : Nat)
    (h : k + n ≤ o ∨ o + bytes.length ≤ k) :
    ((overlay page o bytes).drop k).take n = (page.drop k).take n := by
  apply List.ext_getElem?
  intro x
  by_cases hx : x < n
  · rw [List.getElem?_take_of_lt hx, List.getElem?_take_of_lt hx, List.getElem?_drop,
      List.getElem?_drop, getElem?_overlay, if_neg (by omega)]
  · rw [List.getElem?_eq_none (by simp; omega), List.getElem?_eq_none (by simp; omega)]

/-- Bytes that fit are read back from the front of a page. -/
theorem take_overlay_zero {page bytes : Bytes} (h : bytes.length ≤ page.length) :
    (overlay page 0 bytes).take bytes.length = bytes := by
  rw [overlay, List.take_zero, List.nil_append, List.take_of_length_le (l := bytes) (by omega),
    List.take_left]

theorem slot_write_self (o : Nat) (bytes : Bytes) :
    (m.write i o bytes).slot i = overlay (m.slot i) o bytes := by
  by_cases hi : i < m.slots.size
  · simp [slot, write, Array.getElem_modify, hi]
  · simp [slot, write, hi, overlay]

@[simp] theorem length_slot_write (o : Nat) (bytes : Bytes) :
    ((m.write i o bytes).slot j).length = (m.slot j).length := by
  by_cases h : i = j
  · subst h; rw [slot_write_self, length_overlay]
  · rw [slot_write_of_ne m h]

/-! ## What is read depends on the page -/

variable {m} {m' : SlotMemory}

theorem read_congr (h : m.slot i = m'.slot j) (o n : Nat) : m.read i o n = m'.read j o n := by
  simp only [read, h]

theorem status_congr (h : m.slot i = m'.slot j) : m.status i = m'.status j := by
  simp only [status, word, read, h]

theorem queued_congr (h : m.slot i = m'.slot j) : m.queued i = m'.queued j := by
  simp only [queued, wireLength, word, read, h]

variable (m)

/-- A read apart from a write into the same slot finds what was there. -/
theorem read_write_of_disjoint {o k n : Nat} {bytes : Bytes}
    (h : k + n ≤ o ∨ o + bytes.length ≤ k) : (m.write i o bytes).read i k n = m.read i k n := by
  simp only [read, slot_write_self, take_drop_overlay _ _ _ _ _ h]

/-- A number in a page that has room for it is read back modulo its width. -/
theorem word_setWord {o w : Nat} (v : Nat) (h : o + w ≤ (m.slot i).length) :
    (m.setWord i o w v).word i o w = v % Nat.pow 256 w := by
  have hr := read_write_self m i o (Bytes.littleEndian w v) (by simpa using h)
  rw [Bytes.length_littleEndian] at hr
  rw [word, setWord, hr, Bytes.ofLittleEndian_littleEndian]

/-- A number apart from one that is written into the same slot stays. -/
theorem word_setWord_of_disjoint {o w k n : Nat} (v : Nat) (h : k + n ≤ o ∨ o + w ≤ k) :
    (m.setWord i o w v).word i k n = m.word i k n := by
  rw [word, setWord, read_write_of_disjoint m (by simpa using h), word]

/-! ## The status word -/

@[simp] theorem count_setWord (o w v : Nat) : (m.setWord i o w v).count = m.count :=
  count_write m i o _

@[simp] theorem length_slot_setWord (o w v : Nat) :
    ((m.setWord i o w v).slot j).length = (m.slot j).length := length_slot_write m o _

theorem slot_setWord_of_ne (h : i ≠ j) (o w v : Nat) : (m.setWord i o w v).slot j = m.slot j :=
  slot_write_of_ne m h o _

@[simp] theorem count_setStatus (v : Nat) : (m.setStatus i v).count = m.count :=
  count_setWord m 0 8 v

@[simp] theorem length_slot_setStatus (v : Nat) :
    ((m.setStatus i v).slot j).length = (m.slot j).length := length_slot_setWord m 0 8 v

theorem slot_setStatus_of_ne (h : i ≠ j) (v : Nat) : (m.setStatus i v).slot j = m.slot j :=
  slot_setWord_of_ne m h 0 8 v

theorem status_setStatus_of_ne (h : i ≠ j) (v : Nat) :
    (m.setStatus i v).status j = m.status j := status_congr (slot_setStatus_of_ne m h v)

theorem status_setStatus (v : Nat) (h : 8 ≤ (m.slot i).length) :
    (m.setStatus i v).status i = v % Nat.pow 256 8 := word_setWord m v (by simpa using h)

/-- The status word is no part of a frame for sending. -/
@[simp] theorem queued_setStatus (v : Nat) : (m.setStatus i v).queued j = m.queued j := by
  by_cases h : i = j
  · subst h
    have hlength : (m.setStatus i v).wireLength i = m.wireLength i :=
      word_setWord_of_disjoint m v (.inr (Nat.le_refl 8))
    rw [queued, hlength, queued, setStatus, setWord,
      read_write_of_disjoint m (by simp [sendOffset])]
  · exact queued_congr (slot_setStatus_of_ne m h v)

theorem take_littleEndian (k w v : Nat) :
    (Bytes.littleEndian w v).take k = Bytes.littleEndian (min k w) v := by
  induction w generalizing k v with
  | zero => simp [Bytes.littleEndian]
  | succ w ih =>
    cases k with
    | zero => simp [Bytes.littleEndian]
    | succ k =>
      rw [Nat.add_min_add_right, Bytes.littleEndian, Bytes.littleEndian, List.take_succ_cons, ih]

/-- Of the status word that is stored, a slot keeps the bytes that it has room for. -/
theorem status_setStatus_min (v : Nat) :
    (m.setStatus i v).status i = v % Nat.pow 256 (min (m.slot i).length 8) := by
  have hp : (overlay (m.slot i) 0 (Bytes.littleEndian 8 v)).take 8 =
      Bytes.littleEndian (min (m.slot i).length 8) v := by
    rw [← take_littleEndian]
    by_cases hl : 8 ≤ (m.slot i).length
    · have hroom : (Bytes.littleEndian 8 v).length ≤ (m.slot i).length := by simpa using hl
      have ht := take_overlay_zero hroom
      rw [Bytes.length_littleEndian] at ht
      rw [ht, List.take_of_length_le (by simpa using hl)]
    · have hroom : (m.slot i).length ≤ (Bytes.littleEndian 8 v).length := by
        rw [Bytes.length_littleEndian]
        omega
      have hstored : overlay (m.slot i) 0 (Bytes.littleEndian 8 v) =
          (Bytes.littleEndian 8 v).take (m.slot i).length := by
        rw [overlay, List.take_zero, List.nil_append, Nat.sub_zero, Nat.zero_add,
          List.drop_of_length_le hroom, List.append_nil]
      rw [hstored, List.take_take, Nat.min_eq_right (by omega)]
  simp only [status, word, read, setStatus, setWord, slot_write_self, List.drop_zero, hp]
  exact Bytes.ofLittleEndian_littleEndian ..

/-- A slot of which the status word was cleared is free, however short it is. -/
theorem status_setStatus_free : (m.setStatus i free).status i = free := by
  rw [status_setStatus_min]
  exact Nat.zero_mod _

theorem ofLittleEndian_replicate_zero (n : Nat) :
    Bytes.ofLittleEndian (List.replicate n 0) = 0 := by
  induction n with
  | zero => rfl
  | succ n ih => simp [List.replicate_succ, Bytes.ofLittleEndian, ih]

/-! ## Zeroed slots -/

@[simp] theorem count_zeroed (count size : Nat) : (zeroed count size).count = count := by
  simp [zeroed, SlotMemory.count]

theorem slot_zeroed {count : Nat} (size : Nat) (h : i < count) :
    (zeroed count size).slot i = List.replicate size 0 := by
  simp [zeroed, slot, h]

theorem status_zeroed (count size : Nat) (i : Nat) : (zeroed count size).status i = free := by
  have hs : (zeroed count size).slot i = List.replicate (if i < count then size else 0) 0 := by
    split
    · exact slot_zeroed size ‹_›
    · simp [zeroed, slot, *]
  simp only [status, word, read, hs, List.drop_replicate, List.take_replicate]
  exact ofLittleEndian_replicate_zero _

/-! ## Delivered frames -/

variable {d : Delivery}

theorem count_deliver (i : Nat) (d : Delivery) : (m.deliver i d).count = m.count := by
  simp [deliver]

theorem slot_deliver_of_ne (h : i ≠ j) (d : Delivery) : (m.deliver i d).slot j = m.slot j := by
  rw [deliver, slot_setStatus_of_ne _ h, slot_setWord_of_ne _ h, slot_setWord_of_ne _ h,
    slot_setWord_of_ne _ h, slot_write_of_ne _ h]

theorem status_deliver (h : 8 ≤ (m.slot i).length) (hf : d.flags < Nat.pow 256 8) :
    (m.deliver i d).status i = 1 ||| d.flags := by
  rw [deliver, status_setStatus _ _ (by simpa using h)]
  exact Nat.mod_eq_of_lt (Nat.or_lt_two_pow (n := 64) (by decide) hf)

theorem wireLength_deliver (h : 12 ≤ (m.slot i).length) (hw : d.wireLength < Nat.pow 256 4) :
    (m.deliver i d).wireLength i = d.wireLength := by
  rw [deliver, wireLength, setStatus, word_setWord_of_disjoint _ _ (by omega),
    word_setWord_of_disjoint _ _ (by omega), word_setWord_of_disjoint _ _ (by omega),
    word_setWord _ _ (by simpa using h)]
  exact Nat.mod_eq_of_lt hw

theorem snapLength_deliver (h : 16 ≤ (m.slot i).length) (hs : d.snapLength < Nat.pow 256 4) :
    (m.deliver i d).snapLength i = d.snapLength := by
  rw [deliver, snapLength, setStatus, word_setWord_of_disjoint _ _ (by omega),
    word_setWord_of_disjoint _ _ (by omega), word_setWord _ _ (by simpa using h)]
  exact Nat.mod_eq_of_lt hs

theorem frameOffset_deliver (h : 18 ≤ (m.slot i).length) (ho : d.frameOffset < Nat.pow 256 2) :
    (m.deliver i d).frameOffset i = d.frameOffset := by
  rw [deliver, frameOffset, setStatus, word_setWord_of_disjoint _ _ (by omega),
    word_setWord _ _ (by simpa using h)]
  exact Nat.mod_eq_of_lt ho

/-- The header is written before the place of the frame. -/
theorem read_deliver (h : deliveryOffset + d.data.length ≤ (m.slot i).length) :
    (m.deliver i d).read i deliveryOffset d.data.length = d.data := by
  rw [deliver, setStatus, setWord, read_write_of_disjoint _ (by simp [deliveryOffset]),
    setWord, read_write_of_disjoint _ (by simp [deliveryOffset]),
    setWord, read_write_of_disjoint _ (by simp [deliveryOffset]),
    setWord, read_write_of_disjoint _ (by simp [deliveryOffset])]
  exact read_write_self m i deliveryOffset d.data h

end PacketLink.SlotMemory
