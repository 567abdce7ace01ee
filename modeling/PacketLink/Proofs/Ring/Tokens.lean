import PacketLink.Proofs.Ring.Reception

/-!
# Slots that are read late

A slot claimed for reading is a value: a program can keep it and ask for its frame at any time. The
ring looks at the index of the slot and at whether anything is claimed, and takes the extent of the
frame from the value.

* `Reception.Recorded`: a reception with slots that were given out in it, each with the number of
  frames that had been released by then.
* `Reception.IsHonoured`: a slot can be read exactly while it is the one that is claimed; then it
  has the frame that the kernel delivered for this claim.
* `isHonoured_iff`: this fails exactly for slots that were given out some whole laps ago, at a time
  when a slot with another value is claimed.
* `stale_payload`: there the slot gives bytes of the new frame, in the extent of the old one.
-/

namespace PacketLink.Ring.Reception

open Host SlotMemory

/-- What can be reached from a ring on a host, with slots that were given out, each with the
number of frames released before. -/
inductive Recorded (h : Host) (r : Ring) : Reception → List (Nat × Slot) → Prop where
  | start : Recorded h r { host := h, ring := r } []
  | acquire {s : Reception} {returned : List (Nat × Slot)} {slot? : Option Slot} {r' : Ring}
      {h' : Host} (hs : Recorded h r s returned)
      (ha : s.ring.acquireRead.run s.host = ((.ok slot?, r'), h')) :
    Recorded h r { s with host := h', ring := r', held := slot? }
      (returned ++ slot?.toList.map (s.seen.length, ·))
  | other {s s' : Reception} {returned : List (Nat × Slot)} (hs : Recorded h r s returned)
      (ht : Step s s') : Recorded h r s' returned

/-- A slot can be read exactly while it is the one that is claimed, and then has the next frame. -/
structure IsHonoured (s : Reception) (slot : Slot) : Prop where
  ok_iff : (∃ data, s.ring.payload s.memory slot = .ok data) ↔
    s.ring.claimed = true ∧ s.held = some slot
  data : ∀ data, s.ring.payload s.memory slot = .ok data →
    ∃ f, s.delivered[s.seen.length]? = some f ∧ data = f.data
  error : ∀ e, s.ring.payload s.memory slot = .error e → ∃ message, e = .ringProtocol message

variable {s s' : Reception} {r : Ring} {h : Host} {n : Nat} {slot : Slot}
  {returned : List (Nat × Slot)}

theorem Recorded.reachable (hs : Recorded h r s returned) : Reachable h r s := by
  induction hs with
  | start => exact .start
  | acquire _ ha ih => exact ih.step (.acquire ha)
  | other _ ht ih => exact ih.step ht

/-! ## What holds of slots that were given out -/

/-- What holds of a slot that was given out after `n` releases. -/
structure Returned (s : Reception) (n : Nat) (slot : Slot) : Prop where
  le : n ≤ s.seen.length
  index : slot.index = n % s.ring.capacity
  /-- Until the next release it is the slot that is held. -/
  held : n = s.seen.length → s.held = some slot

/-- A ring that is claimed gives the slot that is held once more. -/
theorem Inv.acquire_again (hi : s.Inv) {slot? : Option Slot} {r' : Ring} {h' : Host}
    (ha : s.ring.acquireRead.run s.host = ((.ok slot?, r'), h')) (hh : s.held = some slot) :
    slot? = some slot := by
  obtain ⟨h₁, hrun, -⟩ := acquireRead_run hi.direction s.host
  have hc : s.ring.claimed = true := by
    cases hc : s.ring.claimed with
    | true => rfl
    | false => simp [hi.held, hc] at hh
  have hslot := hi.held.symm.trans hh
  rw [if_pos hc] at hslot
  rw [hrun] at ha
  exact (Except.ok.inj (Prod.mk.inj (Prod.mk.inj ha).1).1).symm.trans hslot

theorem acquire_capacity (hi : s.Inv) {slot? : Option Slot} {r' : Ring} {h' : Host}
    (ha : s.ring.acquireRead.run s.host = ((.ok slot?, r'), h')) :
    r'.capacity = s.ring.capacity := by
  obtain ⟨h₁, hrun, -⟩ := acquireRead_run hi.direction s.host
  rw [hrun] at ha
  obtain ⟨-, rfl⟩ := Prod.mk.inj (Prod.mk.inj ha).1
  unfold afterAcquire
  split <;> rfl

theorem Returned.step (hr : s.Returned n slot) (hi : s.Inv) (ht : Step s s') :
    s'.Returned n slot := by
  obtain ⟨hle, hx, hh⟩ := hr
  cases ht with
  | deliver hd => exact ⟨hle, hx, hh⟩
  | acquire ha =>
    refine ⟨hle, ?_, fun hn => hi.acquire_again ha (hh hn)⟩
    rw [acquire_capacity hi ha]
    exact hx
  | release hr =>
    obtain ⟨-, rfl⟩ := releaseRead_ok hr
    refine ⟨?_, hx, fun hn => ?_⟩
    · simp only [List.length_append, List.length_singleton]
      omega
    · simp only [List.length_append, List.length_singleton] at hn
      omega
  | refuse hr =>
    obtain rfl := releaseRead_error hr
    exact ⟨hle, hx, hh⟩

theorem Recorded.valid (hf : r.Fresh h) (hd : r.direction = .receive)
    (hs : Recorded h r s returned) (hm : (n, slot) ∈ returned) : s.Returned n slot := by
  induction hs with
  | start => cases hm
  | @acquire s _ slot? _ _ hs ha ih =>
    have hi := hs.reachable.inv hf hd
    rcases List.mem_append.mp hm with hold | hnew
    · exact (ih hold).step hi (.acquire ha)
    · obtain ⟨slot', hslot, he⟩ := List.mem_map.mp hnew
      cases he
      have hgiven : slot? = some slot := Option.mem_toList.mp hslot
      refine ⟨Nat.le_refl _, ?_, fun _ => hgiven⟩
      obtain ⟨h₁, hrun, -⟩ := acquireRead_run hi.direction s.host
      have hfound := Except.ok.inj (Prod.mk.inj (Prod.mk.inj (hrun.symm.trans ha)).1).1
      rw [acquire_capacity hi ha, (readSlot?_eq_some (hfound.trans hgiven)).2.1]
      exact hi.cursor
  | other hs ht ih => exact (ih hm).step (hs.reachable.inv hf hd) ht

/-! ## When a slot can be read -/

theorem payload_error {m : SlotMemory} (hc : r.claimed = false ∨ slot.index ≠ r.cursor) :
    r.payload m slot = .error (.ringProtocol "payload of a slot that is not claimed") := by
  unfold payload
  rcases hc with hc | hx
  · simp [hc]
  · simp [hx]

/-- It is in order to refuse a slot that is not the one that is held. -/
theorem isHonoured_of_error {message : String}
    (he : s.ring.payload s.memory slot = .error (.ringProtocol message))
    (hn : ¬ (s.ring.claimed = true ∧ s.held = some slot)) : s.IsHonoured slot := by
  have hno (data : Bytes) : s.ring.payload s.memory slot ≠ .ok data := by
    rw [he]
    exact nofun
  constructor
  · exact iff_of_false (fun ⟨data, hok⟩ => hno data hok) hn
  · intro data hok
    exact absurd hok (hno data)
  · intro e herr
    exact ⟨message, Except.error.inj (herr.symm.trans he)⟩

/-- The slot that is held has the frame delivered for it. -/
theorem Inv.isHonoured_held (hi : s.Inv) (hc : s.ring.claimed = true) (hh : s.held = some slot) :
    s.IsHonoured slot := by
  have hread := hi.held.symm.trans hh
  rw [if_pos hc] at hread
  have hok := payload_eq_ok (m := s.memory) hc (readSlot?_eq_some hread).2.1
  have hview := hi.view_held hc
  rw [hh] at hview
  change s.ring.view s.memory slot = _ at hview
  rw [view, hok] at hview
  refine ⟨⟨fun _ => ⟨hc, hh⟩, fun _ => ⟨_, hok⟩⟩, fun data hdata => ?_, fun e he => ?_⟩
  · cases hok.symm.trans hdata
    exact ⟨_, hview.symm, rfl⟩
  · cases hok.symm.trans he

/-- A slot of the same index that was given out some whole laps ago can be read: it gives bytes of
the slot at the cursor, in its own extent. -/
theorem stale_payload (hi : s.Inv) (hr : s.Returned n slot) (hc : s.ring.claimed = true)
    (hd : s.ring.capacity ∣ s.seen.length - n) : s.ring.payload s.memory slot =
      .ok (s.memory.read s.ring.cursor slot.payloadOffset slot.frameBytes) := by
  have hx : slot.index = s.ring.cursor := by
    rw [hr.index, hi.cursor]
    exact (mod_eq_mod_iff hr.le).mpr hd
  rw [payload_eq_ok hc hx, hx]

/-! ## A slot that came round again -/

/-- The kernel of the host delivers a frame. -/
theorem Recorded.deliver {d : Delivery} (hs : Recorded h r s returned) (hf : r.Fresh h)
    (hd : r.direction = .receive) (hfree : s.memory.status s.kernelCursor = SlotMemory.free)
    (hl : (s.memory.slot s.kernelCursor).length = s.ring.slotSize)
    (hfits : Fits s.ring.slotSize d) :
    Recorded h r { s with
      host := s.host.onMemory s.ring.mapping fun m => m.deliver s.kernelCursor d
      kernelCursor := (s.kernelCursor + 1) % s.ring.capacity
      delivered := s.delivered ++ [.ofDelivery d] } returned := by
  have hi := hs.reachable.inv hf hd
  obtain ⟨k, hk⟩ := exists_mapping (Nat.lt_of_lt_of_eq hi.capacity_pos hi.count.symm)
  exact hs.other (.deliver (delivers_deliver hk hfree hl hfits))

/-- The first slot of the smallest ring as it is given out first. -/
def firstSlot : Slot := ⟨0, .ownedByUser, 0, 64, 3, 3⟩

/-- After a lap of the smallest ring the first slot has another frame. -/
theorem pair_stale_read : ∃ s returned,
    Recorded (pairHost .receive none {}) (pair .receive none) s returned ∧
      (0, firstSlot) ∈ returned ∧ s.ring.claimed = true ∧ s.seen.length = 2 ∧
      s.ring.capacity = 2 ∧ s.held ≠ some firstSlot := by
  have hf := pair_fresh .receive none {}
  have hfits (data : Bytes) {size : Nat} (hs : size = 128) (h : data.length ≤ 64) :
      Fits size (.whole data) :=
    ⟨rfl, rfl, hs ▸ Nat.add_le_add_left h 64, hs ▸ by decide, Nat.lt_of_le_of_lt h (by decide),
      (by decide : 0 < Nat.pow 256 8)⟩
  have h₁ := (Recorded.start (h := pairHost .receive none {}) (r := pair .receive none)).deliver
    hf rfl (by decide +kernel) (by decide +kernel) (hfits [1, 2, 3] (by decide +kernel) (by decide))
  have h₂ := h₁.acquire (acquireRead_answer rfl _)
  have h₃ := h₂.other (.release (releaseRead_run (by decide +kernel) _))
  have h₄ := h₃.deliver hf rfl (by decide +kernel) (by decide +kernel)
    (hfits [4, 5] (by decide +kernel) (by decide))
  have h₅ := h₄.acquire (acquireRead_answer (by decide +kernel) _)
  have h₆ := h₅.other (.release (releaseRead_run (by decide +kernel) _))
  have h₇ := h₆.deliver hf rfl (by decide +kernel) (by decide +kernel)
    (hfits [6, 7, 8, 9, 10] (by decide +kernel) (by decide))
  have h₈ := h₇.acquire (acquireRead_answer (by decide +kernel) _)
  exact ⟨_, _, h₈, by decide +kernel, by decide +kernel, by decide +kernel, by decide +kernel,
    by decide +kernel⟩

/-- A slot can be read exactly while it is the one that is claimed, unless it was given out some
whole laps ago and a slot with another value is claimed. -/
theorem isHonoured_iff (hf : r.Fresh h) (hd : r.direction = .receive)
    (hs : Recorded h r s returned) (hm : (n, slot) ∈ returned) :
    s.IsHonoured slot ↔ ¬ (s.ring.claimed = true ∧ n < s.seen.length ∧
      s.ring.capacity ∣ s.seen.length - n ∧ s.held ≠ some slot) := by
  have hi := hs.reachable.inv hf hd
  have hr := hs.valid hf hd hm
  constructor
  · rintro hon ⟨hc, -, hlap, hne⟩
    exact hne (hon.ok_iff.mp ⟨_, stale_payload hi hr hc hlap⟩).2
  · intro hn
    by_cases hc : s.ring.claimed = true
    · by_cases hh : s.held = some slot
      · exact hi.isHonoured_held hc hh
      · -- A slot that is not held was given out earlier, and not a number of laps ago.
        have hlt : n < s.seen.length := Nat.lt_of_le_of_ne hr.le fun he => hh (hr.held he)
        have hx : slot.index ≠ s.ring.cursor := by
          rw [hr.index, hi.cursor]
          exact fun he => hn ⟨hc, hlt, (mod_eq_mod_iff hr.le).mp he, hh⟩
        exact isHonoured_of_error (payload_error (.inr hx)) fun hyes => hh hyes.2
    · exact isHonoured_of_error (payload_error (.inl (Bool.eq_false_iff.mpr hc)))
        fun hyes => hc hyes.1

theorem isHonoured_iff_pair : ∃ s returned,
    Recorded (pairHost .receive none {}) (pair .receive none) s returned ∧ s.seen.length = 2 ∧
      (s.IsHonoured firstSlot ↔ ¬ (s.ring.claimed = true ∧ 0 < s.seen.length ∧
        s.ring.capacity ∣ s.seen.length - 0 ∧ s.held ≠ some firstSlot)) := by
  obtain ⟨s, returned, hs, hm, -, hn, -⟩ := pair_stale_read
  exact ⟨s, returned, hs, hn, isHonoured_iff (pair_fresh .receive none {}) rfl hs hm⟩

/-- Not every slot is honoured: the first slot of the smallest ring can be read again while its
third frame is claimed. -/
theorem not_isHonoured_pair : ¬ ∀ (h : Host) (r : Ring) (s : Reception) (returned : _),
    r.Fresh h → r.direction = .receive → Recorded h r s returned →
      ∀ n slot, (n, slot) ∈ returned → s.IsHonoured slot := by
  intro hall
  obtain ⟨s, returned, hs, hm, hc, hn, hcap, hne⟩ := pair_stale_read
  have hf := pair_fresh .receive none {}
  have hlap : s.ring.capacity ∣ s.seen.length - 0 := ⟨1, by rw [hn, hcap]⟩
  have hok := stale_payload (hs.reachable.inv hf rfl) (hs.valid hf rfl hm) hc hlap
  exact hne ((hall _ _ s returned hf rfl hs 0 _ hm).ok_iff.mp ⟨_, hok⟩).2

end PacketLink.Ring.Reception
