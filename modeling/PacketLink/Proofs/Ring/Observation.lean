import PacketLink.Proofs.Ring.Service

/-!
# What the status of a slot shows

The status of the slot at the cursor tells whether the slot can be claimed, whatever its status word
is and in either direction. A slot that was handed to the kernel shows so until the kernel acts on
it.

* `Observed`: a claim gives a slot out exactly if the status shows that the slot is the program's
  (`observed_readSlot?`, `observed_writeSlot?`), although the status and the claim read the status
  word each in its own way.
* `IsMarked`: a status word of a ring for sending that says whose the slot is. Only of such words a
  claim for writing can make something (`ofWord_eq_unmarked_iff`).
* `takings`: how often the kernel took a frame from a slot. Where it took none, asking it to send
  leaves the status word alone (`flush_spares`).
* `status_run`: the status word of every slot after a call.
* `Service.Undisturbed`: what can be reached while the kernel does not act on a slot.
* `status_legible`: both, in every state that can be reached.
-/

namespace PacketLink

/-! ## Frames taken from a slot -/

namespace Host

/-- Whether the kernel took a frame of a socket from a slot. -/
def Event.takes (s : SocketId) (i : Nat) : Event → Bool
  | .transmit s' j _ => s' = s && j = i
  | _ => false

/-- How often the kernel took a frame of a socket from a slot. -/
def takings (h : Host) (s : SocketId) (i : Nat) : Nat := h.trace.countP (Event.takes s i)

theorem takings_takeNext (h : Host) (s : SocketId) (id : MappingId) (k : Mapping) (i : Nat) :
    (h.takeNext s id k).takings s i = h.takings s i + if k.nextSend = i then 1 else 0 := by
  simp [takings, takeNext, List.countP_cons, Event.takes]

/-- A slot from which no frame is taken keeps its status word when the kernel is asked to send. -/
theorem flush_spares {s : SocketId} {i : Nat} {h : Host}
    (ht : ((flush s).run h).2.takings s i = h.takings s i) (id : MappingId) :
    (((flush s).run h).2.memoryOf id).status i = (h.memoryOf id).status i := by
  refine (flush_induction_called (s := s) (h := h)
    (P := fun h' => h.takings s i ≤ h'.takings s i ∧
      (h'.takings s i = h.takings s i → (h'.memoryOf id).status i = (h.memoryOf id).status i))
    (fun h₁ id' k _ ⟨hle, hsame⟩ _ _ => ?_) ?_).2 ht
  · rw [takings_takeNext]
    refine ⟨Nat.le_add_right_of_le hle, fun hn => ?_⟩
    -- A frame that is taken is counted at its slot, so this one was in another slot.
    by_cases hi : k.nextSend = i
    · rw [if_pos hi] at hn
      omega
    · rw [if_neg hi, Nat.add_zero] at hn
      exact (@memory_of_modify _ _ _ (·.status i) _ _ (h₁.mappings_takeNext s id' k)
        (fun k' => SlotMemory.status_setStatus_of_ne k'.memory hi _) id).trans (hsame hn)
  · have htrace : ((plainCall .send (.flush s)).run h).2.trace = _ :=
      attempt_trace (Keeps.pure _) h
    have hrings : Keeps rings (plainCall .send (.flush s)) := plainCall_keeps fun _ => rfl
    refine ⟨?_, fun _ => @memory_of_rings _ _ _ (·.status i) (hrings h) id⟩
    simp [takings, htrace, Event.takes]

end Host

/-! ## Status and claims -/

/-- The status that shows that a slot was handed to the kernel. -/
def RingDirection.handed : RingDirection → SlotStatus
  | .receive => .availableToKernel
  | .send => .sendRequested

/-- The status word that hands a slot to the kernel. -/
def RingDirection.handedWord : RingDirection → Nat
  | .receive => SlotMemory.free
  | .send => SlotMemory.sendRequest

theorem SlotStatus.ofWord_handedWord (d : RingDirection) : ofWord d d.handedWord = d.handed := by
  cases d <;> rfl

/-- A status word of a ring for sending tells whose the slot is: it is free, or the kernel is asked
to send its frame, is sending it, or refused it. -/
def IsMarked (word : Nat) : Prop :=
  word = SlotMemory.free ∨ SlotMemory.isSendRequest word = true ∨
    SlotMemory.isSending word = true ∨ SlotMemory.isWrongFormat word = true

/-- A claim for writing meets a word that it does not expect exactly if the word is not marked. -/
theorem WriteClaim.ofWord_eq_unmarked_iff {word : Nat} :
    ofWord word = .unmarked ↔ ¬ IsMarked word := by
  unfold ofWord IsMarked
  by_cases hf : word = SlotMemory.free
  · simp [hf]
  · by_cases hw : SlotMemory.isWrongFormat word
    · simp [hf, hw]
    · cases SlotMemory.isSendRequest word <;> cases SlotMemory.isSending word <;> simp [hf, hw]

namespace Ring

open Host SlotMemory

variable {r r₀ : Ring} {h h₀ : Host} {m : SlotMemory} {d : RingDirection}

/-- The operation that claims the slot at the cursor. -/
def Operation.claiming : RingDirection → Operation
  | .receive => .acquireRead
  | .send => .acquireWrite

/-- What a claim gives out agrees with the status of the slot at the cursor. -/
structure Observed (r : Ring) (m : SlotMemory) (slot? : Option Slot) : Prop where
  given : slot?.isSome = true ↔
    r.status m r.cursor = .ownedByUser ∨ r.status m r.cursor = .error
  index : ∀ slot ∈ slot?, slot.index = r.cursor
  status : ∀ slot ∈ slot?, slot.status = r.status m r.cursor

theorem observed_readSlot? (hd : r.direction = .receive) : Observed r m (r.readSlot? m) := by
  by_cases hu : isUser (m.status r.cursor)
  · cases hc : isCopy (m.status r.cursor) <;>
      constructor <;> simp [readSlot?, Ring.status, SlotStatus.ofWord, hd, hu, hc]
  · constructor <;> simp [readSlot?, Ring.status, SlotStatus.ofWord, hd, hu]

theorem observed_writeSlot? (hd : r.direction = .send) : Observed r m (r.writeSlot? m) := by
  have hstatus : r.status m r.cursor = .ofWord .send (m.status r.cursor) := by
    rw [Ring.status, hd]
  have hgiven : r.status m r.cursor = .ownedByUser ∨ r.status m r.cursor = .error ↔
      r.status m r.cursor ≠ .sendRequested := by
    rw [hstatus]
    by_cases hf : m.status r.cursor = free
    · simp [SlotStatus.ofWord, hf]
    · by_cases hw : isWrongFormat (m.status r.cursor) <;> simp [SlotStatus.ofWord, hf, hw]
  cases hw : r.writeSlot? m with
  | none =>
    have hs := (ofWord_send_eq_sendRequested_iff r.cursor).mpr (writeSlot?_eq_none_iff.mp hw)
    rw [← hstatus] at hs
    refine ⟨?_, nofun, nofun⟩
    rw [hgiven]
    exact ⟨nofun, fun hne => absurd hs hne⟩
  | some slot =>
    obtain ⟨-, hindex, hs, hne, -⟩ := writeSlot?_eq_some hw
    rw [← hstatus] at hs
    refine ⟨?_, ?_, ?_⟩
    · rw [hgiven, ← hs]
      exact ⟨fun _ => hne, fun _ => rfl⟩
    · rintro _ ⟨⟩
      exact hindex
    · rintro _ ⟨⟩
      exact hs

/-- A claim is answered, and in agreement with the status. -/
theorem claiming_observed (r : Ring) (h : Host) : ∃ slot?,
    (((Operation.claiming r.direction).run r).run h).1.1 = .ok (.slot slot?) ∧
      Observed r (r.memory h) slot? := by
  cases hd : r.direction with
  | receive =>
    obtain ⟨h', hrun, -⟩ := acquireRead_run hd h
    refine ⟨_, ?_, observed_readSlot? hd⟩
    simp only [Operation.claiming, Operation.run, run_bind, hrun]
    rfl
  | send =>
    refine ⟨_, ?_, observed_writeSlot? hd⟩
    simp only [Operation.claiming, Operation.run, run_bind, acquireWrite_run hd]
    rfl

/-! ## Status words after a call -/

/-- Only on a ring for receiving a slot is claimed for reading. -/
theorem Used.direction_of_claimed (hu : Used r₀ h₀ r h) (hf : r₀.claimed = false)
    (hc : r.claimed = true) : r.direction = .receive := by
  induction hu with
  | made =>
    rw [hf] at hc
    cases hc
  | written _ _ ih => exact ih hc
  | @acquired r h _ ih =>
    cases hd : r.direction with
    | receive => exact (acquireRead_direction r h).trans hd
    | send =>
      rw [acquireRead_refused hd] at hc ⊢
      exact ih hc
  | @released r h _ ih =>
    cases hr : r.claimed with
    | true =>
      rw [releaseRead_run hr] at hc
      cases hc
    | false =>
      rw [releaseRead_run_unclaimed hr] at hc ⊢
      exact ih hc
  | @submitted r h _ slot frame ih =>
    cases hr : r.submitRefusal? slot frame with
    | some e =>
      rw [submitWrite_run_refused hr] at hc ⊢
      exact ih hc
    | none =>
      rw [submitWrite_run_told hr] at hc ⊢
      exact ih hc

/-- The kernel takes no frame from a slot while a call is made. -/
def Spared (r : Ring) (h : Host) (i : Nat) (op : Operation) : Prop :=
  ∀ socket, r.socket = some socket →
    ((op.run r).run h).2.takings socket.id i = h.takings socket.id i

theorem notified_spares {i : Nat} (ht : ∀ socket, r.socket = some socket →
    (r.notified h).takings socket.id i = h.takings socket.id i) :
    (r.memory (r.notified h)).status i = (r.memory h).status i := by
  unfold notified at ht ⊢
  cases hs : r.socket with
  | none => rfl
  | some socket =>
    rw [hs] at ht
    exact flush_spares (ht socket rfl) r.mapping

/-- How many slots a call hands to the kernel. -/
def Operation.handed (op : Operation) (answer : Except LinkError Reply) : Nat :=
  op.released answer + op.submitted answer

theorem submitWrite_handed {slot : Slot} {frame : Bytes}
    (hn : r.submitRefusal? slot frame = none) (h : Host) :
    (Operation.submitWrite slot frame).handed
      (((Operation.submitWrite slot frame).run r).run h).1.1 = 1 := by
  cases ha : (((Operation.submitWrite slot frame).run r).run h).1.1 with
  | ok => rfl
  | error e =>
    obtain ⟨⟨cause, rfl⟩, -⟩ := (submitWrite_whole hn h).2.2.2 e ha
    rfl

theorem Operation.handed_refused {op : Operation} {e : LinkError} (hr : op.refusal? r = some e) :
    op.handed (.error e) = 0 := by
  rw [handed, released_error, submitted_refused hr]

/-- The status word of a slot after a call that the kernel does not use to take its frame: that of
the slot at the cursor is a new one if the slot was handed to the kernel, and all others are as they
were. -/
theorem status_run {i : Nat} {op : Operation} (hb : r.Backed h) (hsize : 0 < r.slotSize)
    (hc : r.claimed = true → r.direction = .receive) (hk : Spared r h i op) :
    let outcome := (op.run r).run h
    (r.memory outcome.2).status i =
      if i = r.cursor ∧ op.handed outcome.1.1 = 1 then r.direction.handedWord
      else (r.memory h).status i := by
  cases hn : op.refusal? r with
  | some e =>
    simp only [Operation.run_refused hn, Operation.handed_refused hn]
    rw [if_neg (by omega)]
  | none =>
    obtain ⟨h₁, hp⟩ := performed hb hn
    cases op with
    | acquireRead | payload slot | acquireWrite =>
      rw [hp.run]
      refine (congrArg (·.status i) hp.memory).trans (if_neg ?_).symm
      rintro ⟨-, hone⟩
      cases hone
    | releaseRead =>
      have hclaimed : r.claimed = true := by simpa [Operation.refusal?] using hn
      rw [hp.run]
      refine (congrArg (·.status i) hp.memory).trans ?_
      by_cases hi : i = r.cursor
      · subst hi
        rw [if_pos ⟨rfl, rfl⟩, hc hclaimed]
        exact status_setStatus_free _
      · rw [if_neg fun h => hi h.1]
        exact status_setStatus_of_ne _ (Ne.symm hi) _
    | submitWrite slot frame =>
      obtain ⟨-, -, hhost, -⟩ := submitWrite_whole hn h
      have hd : r.direction = .send := (submitRefusal?_eq_none_iff.mp hn).1
      unfold Spared at hk
      rw [hhost] at hk
      dsimp only
      rw [hhost, notified_spares hk, hb.memory_onMemory]
      by_cases hi : i = r.cursor
      · subst hi
        rw [if_pos ⟨rfl, submitWrite_handed hn h⟩, hd]
        exact status_fill (by rw [hb.length_cursor]; exact hsize) frame
      · rw [if_neg fun h => hi h.1]
        exact status_congr (slot_fill_of_ne (Ne.symm hi) _ frame)

/-! ## Histories -/

namespace Service

variable {s s' : Service} {i : Nat} {op : Operation}

/-- What can be reached while the kernel does not act on a slot: it leaves the status word of the
slot as it is and takes no frame from it. -/
inductive Undisturbed (i : Nat) (s : Service) : Service → Prop where
  | refl : Undisturbed i s s
  | call {s' : Service} {op : Operation} (hs : Undisturbed i s s') (ha : s'.Allows op)
    (hk : Spared s'.ring s'.host i op) : Undisturbed i s (s'.called op)
  | kernel {s' : Service} {h : Host} (hs : Undisturbed i s s')
    (hw : (s'.ring.memory h).shape = s'.memory.shape)
    (hi : (s'.ring.memory h).status i = s'.memory.status i) :
    Undisturbed i s { s' with host := h }

theorem Undisturbed.reachable (hu : Undisturbed i s s') (hs : s.Reachable h₀ r₀) :
    s'.Reachable h₀ r₀ := by
  induction hu with
  | refl => exact hs
  | call _ ha _ ih => exact ih.step (.call ha)
  | kernel _ hw _ ih => exact ih.step (.kernel hw)

/-- The status word of a slot of a ring that was made, after a call. -/
theorem Reachable.status_called (hm : Made d r₀ h₀) (hs : s.Reachable h₀ r₀)
    (hk : Spared s.ring s.host i op) :
    (s.called op).memory.status i =
      if i = s.ring.cursor ∧ op.handed ((op.run s.ring).run s.host).1.1 = 1 then d.handedWord
      else s.memory.status i := by
  have hb := hs.backed hm.blank
  have hlayout := hs.layout_eq hm.blank
  have hd : s.ring.direction = d := (congrArg Layout.direction hlayout).trans hm.direction
  have hsize : 0 < s.ring.slotSize := by
    rw [show s.ring.slotSize = r₀.slotSize from congrArg Layout.slotSize hlayout]
    exact hm.slotSize_pos
  have hmapping : (s.called op).ring.mapping = s.ring.mapping :=
    congrArg Layout.mapping (hb.layout_run op)
  rw [← hd]
  unfold memory Ring.memory
  rw [hmapping]
  exact status_run hb hsize (hs.used.direction_of_claimed hm.blank.claimed) hk

/-- A slot that was handed to the kernel has the status word for it as long as the kernel does not
act on it. -/
theorem Undisturbed.status_eq (hm : Made d r₀ h₀) (hs : s.Reachable h₀ r₀)
    (hu : Undisturbed i s s') (hi : s.memory.status i = d.handedWord) :
    s'.memory.status i = d.handedWord := by
  induction hu with
  | refl => exact hi
  | call hu' ha hk ih =>
    rw [(hu'.reachable hs).status_called hm hk]
    split
    · rfl
    · exact ih
  | kernel _ _ hstays ih => exact hstays.trans ih

/-- What the status of the slot at the cursor tells. -/
structure Legible (d : RingDirection) (s : Service) : Prop where
  /-- There is a status to look at. -/
  cursor_lt : s.ring.cursor < s.ring.capacity
  /-- A claim gives the slot out exactly if its status is that of the program's slots. -/
  claim : ∃ slot?, (((Operation.claiming d).run s.ring).run s.host).1.1 = .ok (.slot slot?) ∧
    Observed s.ring s.memory slot?
  /-- A claim for writing never meets a word that it does not expect, if the word is marked. -/
  expected : d = .send → IsMarked (s.memory.status s.ring.cursor) →
    WriteClaim.ofWord (s.memory.status s.ring.cursor) ≠ .unmarked
  /-- Once handed to the kernel, the slot shows so until the kernel acts on it. -/
  handed : ∀ op s', s.Allows op → op.handed ((op.run s.ring).run s.host).1.1 = 1 →
    Spared s.ring s.host s.ring.cursor op → Undisturbed s.ring.cursor (s.called op) s' →
    s'.ring.status s'.memory s.ring.cursor = d.handed

/-- However a ring was made and used and whatever the kernel wrote into it, what can be claimed is
what the status shows, and what was handed to the kernel shows so. -/
theorem status_legible (hm : Made d r₀ h₀) (hs : s.Reachable h₀ r₀) : Legible d s := by
  have hdirection {s : Service} (hs : s.Reachable h₀ r₀) : s.ring.direction = d :=
    (congrArg Layout.direction (hs.layout_eq hm.blank)).trans hm.direction
  refine ⟨(hs.backed hm.blank).cursor_lt, ?_,
    fun _ hmarked hw => WriteClaim.ofWord_eq_unmarked_iff.mp hw hmarked,
    fun op s' ha hone hk hu => ?_⟩
  · rw [← hdirection hs]
    exact claiming_observed s.ring s.host
  · have hcalled : (s.called op).Reachable h₀ r₀ := hs.step (.call ha)
    have hword : (s.called op).memory.status s.ring.cursor = d.handedWord := by
      rw [hs.status_called hm hk, if_pos ⟨rfl, hone⟩]
    rw [Ring.status, hdirection (hu.reachable hcalled), hu.status_eq hm hcalled hword]
    exact SlotStatus.ofWord_handedWord d

/-- The kernel cannot be asked to send. -/
def unheard : Script := { pageSize := 128, failures := [(.send, [105])] }

/-- A free slot is claimed and handed over, and waits for the kernel. -/
theorem status_legible_unheard : ∃ s : Service,
    s.Reachable (madeHost .send unheard) (pair .send (some ⟨⟨0⟩⟩)) ∧ Legible .send s ∧
    let s' := s.called (.submitWrite ⟨0, .ownedByUser, 0, 32, 96, 0⟩ [1, 2, 3])
    s.ring.status s.memory 0 = .ownedByUser ∧ s'.submitted = 1 ∧
      s'.host.takings ⟨0⟩ 0 = s.host.takings ⟨0⟩ 0 ∧
      s'.ring.status s'.memory 0 = .sendRequested := by
  have hm : Made .send (pair .send (some ⟨⟨0⟩⟩)) (madeHost .send unheard) := pair_made rfl
  have h₁ := (@Reachable.start (madeHost .send unheard) (pair .send (some ⟨⟨0⟩⟩))).step
    (@Step.call _ .acquireWrite (by intro slot hs; cases hs))
  exact ⟨_, h₁, status_legible hm h₁, by decide +kernel⟩

end Service

end Ring

end PacketLink
