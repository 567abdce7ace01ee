import PacketLink.Proofs.Ring.Laps
import PacketLink.Proofs.Ring.Operations

/-!
# Slots that are submitted late

A claimed slot is a value: a program can keep it and submit it again at any time. The ring looks at
the index of the slot and at the status that it had when it was claimed, and not at the status word
in memory.

* `Custody`: a ring for sending with all slots that it ever gave out, each with the number of frames
  that had been accepted by then.
* `Custody.IsGuarded`: submitting a slot has no effect and breaks the protocol, unless the slot at
  the cursor may be claimed at that moment.
* `isGuarded_iff`: this fails exactly for slots that were given out a whole number of laps ago, at
  a time when the kernel is not done with the slot at the cursor.
* `Custody.stale_run`: there the frame in the slot is overwritten.
-/

namespace PacketLink.Ring

open Host SlotMemory

/-- A ring for sending, with the slots that it gave out. -/
structure Custody where
  host : Host
  ring : Ring
  /-- The number of frames that were submitted and not refused. -/
  accepted : Nat := 0
  /-- The slots that were given out, each with the number of frames accepted before. -/
  returned : List (Nat × Slot) := []

namespace Custody

/-- The memory of the ring. -/
def memory (s : Custody) : SlotMemory := s.ring.memory s.host

/-- One turn of the program or of the kernel. The program may submit any slot that it ever got. The
kernel may do anything but change the slots that it is done with. -/
inductive Step : Custody → Custody → Prop where
  | acquire {s : Custody} {slot? : Option Slot} {h : Host}
      (ha : s.ring.acquireWrite.run s.host = (.ok slot?, h)) :
    Step s { s with host := h, returned := s.returned ++ slot?.toList.map (s.accepted, ·) }
  | submit {s : Custody} {n : Nat} {slot : Slot} {frame : Bytes} {answer : Except LinkError Unit}
      {r : Ring} {h : Host} (hs : (n, slot) ∈ s.returned)
      (hr : (s.ring.submitWrite slot frame).run s.host = ((answer, r), h)) :
    Step s { s with
      host := h, ring := r
      accepted := if isQueued answer then s.accepted + 1 else s.accepted }
  | kernel {s : Custody} {h : Host}
      (hk : ∀ i, IsClaimable s.memory i → (s.ring.memory h).slot i = s.memory.slot i) :
    Step s { s with host := h }

/-- What can be reached from a ring as it is on a host. -/
inductive Reachable (h : Host) (r : Ring) : Custody → Prop where
  | start : Reachable h r { host := h, ring := r }
  | step {s s' : Custody} (hs : Reachable h r s) (ht : Step s s') : Reachable h r s'

/-- Submitting a slot has no effect and breaks the protocol, unless the slot at the cursor may be
claimed. -/
def IsGuarded (s : Custody) (slot : Slot) (frame : Bytes) : Prop :=
  IsClaimable s.memory s.ring.cursor ∨ ∃ message,
    (s.ring.submitWrite slot frame).run s.host =
      ((.error (.ringProtocol message), s.ring), s.host)

/-! ## The invariant -/

/-- What holds of a slot that was given out after `n` frames. -/
structure Returned (s : Custody) (n : Nat) (slot : Slot) : Prop where
  le : n ≤ s.accepted
  index : slot.index = n % s.ring.capacity
  status : slot.status ≠ .sendRequested
  /-- The kernel leaves the slot alone until the next frame is accepted. -/
  claimable : n = s.accepted → IsClaimable s.memory s.ring.cursor

structure Inv (s : Custody) : Prop where
  direction : s.ring.direction = .send
  cursor : s.ring.cursor = s.accepted % s.ring.capacity
  returned : ∀ n slot, (n, slot) ∈ s.returned → s.Returned n slot

theorem Inv.start {r : Ring} {h : Host} (hf : r.Fresh h) (hd : r.direction = .send) :
    Inv { host := h, ring := r } :=
  ⟨hd, by simp [hf.cursor], nofun⟩

variable {s s' : Custody} {n : Nat} {slot : Slot} {frame : Bytes}

theorem Inv.acquire (hi : s.Inv) {slot? : Option Slot} {h : Host}
    (ha : s.ring.acquireWrite.run s.host = (.ok slot?, h)) :
    Inv { s with host := h, returned := s.returned ++ slot?.toList.map (s.accepted, ·) } := by
  rw [acquireWrite_run hi.direction] at ha
  obtain ⟨hok, rfl⟩ := Prod.mk.inj ha
  have hw : s.ring.writeSlot? s.memory = slot? := Except.ok.inj hok
  refine ⟨hi.direction, hi.cursor, fun n slot hm => ?_⟩
  rcases List.mem_append.mp hm with hold | hnew
  · obtain ⟨hle, hx, hs, hc⟩ := hi.returned n slot hold
    exact ⟨hle, hx, hs, hc⟩
  · obtain ⟨slot', hs', he⟩ := List.mem_map.mp hnew
    cases he
    obtain ⟨hc, hx, -, hst, -⟩ := writeSlot?_eq_some (hw.trans (Option.mem_toList.mp hs'))
    exact ⟨Nat.le_refl _, hx.trans hi.cursor, hst, fun _ => hc⟩

/-- What becomes of a slot that is submitted: it is refused and nothing changes, or the frame is
put into the slot at the cursor and the kernel is asked to send. -/
theorem Inv.submit_run (hi : s.Inv) (hs : (n, slot) ∈ s.returned) (frame : Bytes) :
    (∃ e, s.ring.submitRefusal? slot frame = some e ∧ isQueued (.error e) = false ∧
      (s.ring.submitWrite slot frame).run s.host = ((.error e, s.ring), s.host)) ∨
    (slot.index = s.ring.cursor ∧ frame.length ≤ slot.frameBytes ∧
      ∃ answer, isQueued answer = true ∧ (s.ring.submitWrite slot frame).run s.host =
        ((answer, s.ring.advance),
          s.ring.notified (s.host.onMemory s.ring.mapping (fill · s.ring.cursor frame)))) := by
  cases he : s.ring.submitRefusal? slot frame with
  | some e => exact .inl ⟨e, rfl, isQueued_refusal he, submitWrite_run_refused he s.host⟩
  | none =>
    have hx : slot.index = s.ring.cursor := by
      refine Decidable.byContradiction fun hne => ?_
      simp [submitRefusal?, hi.direction, hne] at he
    have hl := (submitRefusal?_eq_none hi.direction hx (hi.returned n slot hs).status).mp he
    obtain ⟨answer, hq, hrun⟩ := submitWrite_run he s.host
    rw [hx] at hrun
    exact .inr ⟨hx, hl, answer, hq, hrun⟩

theorem Inv.submit (hi : s.Inv) {answer : Except LinkError Unit} {r : Ring} {h : Host}
    (hs : (n, slot) ∈ s.returned)
    (hr : (s.ring.submitWrite slot frame).run s.host = ((answer, r), h)) :
    Inv { s with
      host := h, ring := r
      accepted := if isQueued answer then s.accepted + 1 else s.accepted } := by
  rcases hi.submit_run hs frame with ⟨e, -, hq, hrun⟩ | ⟨-, -, answer', hq, hrun⟩
  · obtain ⟨hans, rfl⟩ := Prod.mk.inj (hrun.symm.trans hr)
    obtain ⟨rfl, rfl⟩ := Prod.mk.inj hans
    simp only [hq, Bool.false_eq_true, if_false]
    exact hi
  · obtain ⟨hans, rfl⟩ := Prod.mk.inj (hrun.symm.trans hr)
    obtain ⟨rfl, rfl⟩ := Prod.mk.inj hans
    rw [if_pos hq]
    refine ⟨hi.direction, ?_, fun n slot hm => ?_⟩
    · show (s.ring.cursor + 1) % s.ring.capacity = (s.accepted + 1) % s.ring.capacity
      rw [hi.cursor, Nat.mod_add_mod]
    · -- No slot was given out yet since this frame was accepted.
      obtain ⟨hle, hx, hst, -⟩ := hi.returned n slot hm
      exact ⟨Nat.le_succ_of_le hle, hx, hst, fun he => absurd (he ▸ hle) (Nat.not_succ_le_self _)⟩

theorem Inv.kernel (hi : s.Inv) {h : Host}
    (hk : ∀ i, IsClaimable s.memory i → (s.ring.memory h).slot i = s.memory.slot i) :
    Inv { s with host := h } := by
  refine ⟨hi.direction, hi.cursor, fun n slot hm => ?_⟩
  obtain ⟨hle, hx, hs, hc⟩ := hi.returned n slot hm
  refine ⟨hle, hx, hs, fun he => ?_⟩
  have hst := status_congr (hk _ (hc he))
  show IsClaimable (s.ring.memory h) s.ring.cursor
  rw [IsClaimable, hst]
  exact hc he

theorem Inv.step (hi : s.Inv) (ht : Step s s') : s'.Inv := by
  cases ht with
  | acquire ha => exact hi.acquire ha
  | submit hs hr => exact hi.submit hs hr
  | kernel hk => exact hi.kernel hk

theorem Reachable.inv {h : Host} {r : Ring} (hf : r.Fresh h) (hd : r.direction = .send)
    (hr : Reachable h r s) : s.Inv := by
  induction hr with
  | start => exact Inv.start hf hd
  | step _ ht ih => exact ih.step ht

/-! ## Slots that came round again -/

/-- A slot that was given out a whole number of laps ago is not refused as one that is not at the
cursor: its frame is put over the one that the kernel has. -/
theorem Inv.stale_run (hi : s.Inv) (hs : (n, slot) ∈ s.returned)
    (hd : s.ring.capacity ∣ s.accepted - n) (frame : Bytes) (hl : frame.length ≤ slot.frameBytes) :
    ∃ answer, isQueued answer = true ∧ (s.ring.submitWrite slot frame).run s.host =
      ((answer, s.ring.advance),
        s.ring.notified (s.host.onMemory s.ring.mapping (fill · s.ring.cursor frame))) := by
  obtain ⟨hle, hx, hst, -⟩ := hi.returned n slot hs
  have hcur : slot.index = s.ring.cursor := by
    rw [hx, hi.cursor]
    exact (mod_eq_mod_iff hle).mpr hd
  obtain ⟨answer, hq, hrun⟩ :=
    submitWrite_run ((submitRefusal?_eq_none hi.direction hcur hst).mpr hl) s.host
  rw [hcur] at hrun
  exact ⟨answer, hq, hrun⟩

/-- The first slot of the smallest ring as it is given out first. -/
def firstSlot : Slot := ⟨0, .ownedByUser, 0, 32, 96, 0⟩

/-- The smallest ring can be full while the program still has the first slot. -/
theorem pair_stale : ∃ s : Custody, Reachable (pairHost .send none {}) (pair .send none) s ∧
    (0, firstSlot) ∈ s.returned ∧ s.accepted = 2 ∧ s.ring.capacity = 2 ∧
      ¬ IsClaimable s.memory s.ring.cursor := by
  have h₁ := (Reachable.start (h := pairHost .send none {}) (r := pair .send none)).step
    (.acquire (acquireWrite_run rfl _))
  have hfits : (pair .send none).submitRefusal? firstSlot [1, 2, 3] = none := by decide
  obtain ⟨answer, hq, hrun⟩ := submitWrite_run hfits (pairHost .send none {})
  have h₂ := h₁.step (.submit (n := 0) (by decide +kernel) hrun)
  have h₃ := h₂.step (.acquire (acquireWrite_run rfl _))
  have hfits' : (pair .send none).advance.submitRefusal? ⟨1, .ownedByUser, 128, 32, 96, 0⟩ [4] =
      none := by decide
  obtain ⟨answer', hq', hrun'⟩ := submitWrite_run hfits'
    ((pairHost .send none {}).onMemory ⟨0⟩ (fill · 0 [1, 2, 3]))
  rw [if_pos hq] at h₂ h₃
  have h₄ := h₃.step (.submit (n := 1) (by decide +kernel) hrun')
  rw [if_pos hq'] at h₄
  exact ⟨_, h₄, by decide +kernel, rfl, rfl, by decide +kernel⟩

/-- A slot is guarded exactly if the slot at the cursor may be claimed or the slot was not given out
some whole laps ago. -/
theorem isGuarded_iff {h : Host} {r : Ring} (hf : r.Fresh h) (hd : r.direction = .send)
    (hr : Reachable h r s) (hs : (n, slot) ∈ s.returned) (frame : Bytes) :
    s.IsGuarded slot frame ↔ IsClaimable s.memory s.ring.cursor ∨
      ¬ (n < s.accepted ∧ s.ring.capacity ∣ s.accepted - n) := by
  have hi := hr.inv hf hd
  obtain ⟨hle, hx, hst, hc⟩ := hi.returned n slot hs
  constructor
  · rintro (hc | ⟨message, hm⟩)
    · exact .inl hc
    · refine .inr fun ⟨_, hdvd⟩ => ?_
      have hcur : slot.index = s.ring.cursor := by
        rw [hx, hi.cursor]
        exact (mod_eq_mod_iff hle).mpr hdvd
      -- A slot at the cursor is only refused for the length of the frame.
      rcases hi.submit_run hs frame with ⟨e, he, -, hrun⟩ | ⟨-, -, answer, hq, hrun⟩
      · simp [submitRefusal?, hi.direction, hcur, hst] at he
        obtain ⟨-, rfl⟩ := he
        cases Except.error.inj (Prod.mk.inj (Prod.mk.inj (hrun.symm.trans hm)).1).1
      · obtain ⟨rfl, -⟩ := Prod.mk.inj (Prod.mk.inj (hrun.symm.trans hm)).1
        cases hq
  · rintro (hc | hn)
    · exact .inl hc
    · by_cases he : n = s.accepted
      · exact .inl (hc he)
      · refine .inr ⟨"submit_write on a slot not acquired at the cursor", ?_⟩
        have hne : slot.index ≠ s.ring.cursor := by
          rw [hx, hi.cursor]
          exact fun heq => hn ⟨by omega, (mod_eq_mod_iff hle).mp heq⟩
        exact submitWrite_run_refused (by simp [submitRefusal?, hi.direction, hne]) s.host

theorem isGuarded_iff_pair : ∃ s : Custody,
    Reachable (pairHost .send none {}) (pair .send none) s ∧ s.accepted = 2 ∧
      (s.IsGuarded firstSlot [9] ↔ IsClaimable s.memory s.ring.cursor ∨
        ¬ (0 < s.accepted ∧ s.ring.capacity ∣ s.accepted - 0)) := by
  obtain ⟨s, hs, hm, ha, -⟩ := pair_stale
  exact ⟨s, hs, ha, isGuarded_iff (pair_fresh .send none {}) rfl hs hm [9]⟩

/-- Not every slot is guarded: the first slot of the smallest ring, submitted again when the ring is
full, has its frame overwritten. -/
theorem not_isGuarded_pair : ¬ ∀ (h : Host) (r : Ring) (s : Custody), r.Fresh h →
    r.direction = .send → Reachable h r s → ∀ n slot, (n, slot) ∈ s.returned → ∀ frame,
      s.IsGuarded slot frame := by
  intro hall
  obtain ⟨s, hs, hm, ha, hc, hfull⟩ := pair_stale
  have hf := pair_fresh .send none {}
  have hlap : s.ring.capacity ∣ s.accepted - 0 := ⟨1, by rw [ha, hc]⟩
  obtain ⟨answer, hq, hrun⟩ := (hs.inv hf rfl).stale_run hm hlap [9] (by decide)
  rcases hall _ _ s hf rfl hs 0 _ hm [9] with hclaim | ⟨message, hr⟩
  · exact hfull hclaim
  · obtain ⟨rfl, -⟩ := Prod.mk.inj (Prod.mk.inj (hrun.symm.trans hr)).1
    cases hq

end Custody

end PacketLink.Ring
