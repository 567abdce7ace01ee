import PacketLink.Proofs.Ring.Usage

/-!
# Calls on a ring

A program calls the operations of a ring in any order and with any slot that it ever got from the
ring. Between two calls the kernel writes into the slots whatever it likes.

* `Operation`: what can be asked of a ring. Why a call is refused (`refusal?`) depends on the ring
  and the given slot only, never on the memory.
* `Operation.effect`: what a call that is not refused does by itself to the ring and its memory. A
  call does that and no more, but after a frame has been submitted the kernel is told of it
  (`performed`).
* `Service`: a ring with the slots that it gave out, and the numbers of slots handed back and
  handed over.
* `Service.Reachable.cursor_eq`: the cursor counts the slots handed back and handed over.
* `calls_atomic`: a call has its whole effect or none. The one failure after which a call has had
  its effect is that the kernel could not be told.
-/

namespace PacketLink.Ring

open Host SlotMemory

/-! ## Operations -/

/-- What can be asked of a ring. -/
inductive Operation where
  | acquireRead
  | payload (slot : Slot)
  | releaseRead
  | acquireWrite
  | submitWrite (slot : Slot) (frame : Bytes)

/-- What an operation answers. -/
inductive Reply where
  /-- The claimed slot, if there is one to claim. -/
  | slot (slot? : Option Slot)
  | data (bytes : Bytes)
  | done

/-- What a call does by itself: its answer, the ring and the memory of the ring afterwards. -/
structure Effect where
  reply : Reply
  ring : Ring
  memory : SlotMemory

namespace Operation

/-- The slot that an operation is given. -/
def slot? : Operation → Option Slot
  | .payload slot | .submitWrite slot _ => some slot
  | _ => none

/-- Calls the operation. -/
def run (r : Ring) : Operation → Sys (Except LinkError Reply × Ring)
  | .acquireRead => do
    let (answer, r) ← r.acquireRead
    pure (answer.map .slot, r)
  | .payload slot => do
    pure ((r.payload (r.memory (← get)) slot).map .data, r)
  | .releaseRead => do
    let (answer, r) ← r.releaseRead
    pure (answer.map fun _ => .done, r)
  | .acquireWrite => do
    let answer ← r.acquireWrite
    pure (answer.map .slot, r)
  | .submitWrite slot frame => do
    let (answer, r) ← r.submitWrite slot frame
    pure (answer.map fun _ => .done, r)

/-- Why a call is refused. -/
def refusal? (r : Ring) : Operation → Option LinkError
  | .acquireRead =>
    if r.direction = .send then some (.ringProtocol "acquire_for_read on a TX ring") else none
  | .payload slot =>
    if r.claimed && slot.index = r.cursor then none
    else some (.ringProtocol "payload of a slot that is not claimed")
  | .releaseRead =>
    if r.claimed then none
    else some (.ringProtocol "release_after_read without a claimed slot")
  | .acquireWrite =>
    if r.direction = .receive then some (.ringProtocol "acquire_for_write on an RX ring") else none
  | .submitWrite slot frame => r.submitRefusal? slot frame

/-- What a call that is not refused does by itself. -/
def effect (r : Ring) (m : SlotMemory) : Operation → Effect
  | .acquireRead => ⟨.slot (r.readSlot? m), r.afterAcquire m, m⟩
  | .payload slot => ⟨.data (m.read slot.index slot.payloadOffset slot.frameBytes), r, m⟩
  | .releaseRead => ⟨.done, { r with claimed := false }.advance, m.setStatus r.cursor free⟩
  | .acquireWrite => ⟨.slot (r.writeSlot? m), r, m⟩
  | .submitWrite slot frame => ⟨.done, r.advance, fill m slot.index frame⟩

/-- Whether the kernel is told when the call is done. -/
def tells : Operation → Bool
  | .submitWrite .. => true
  | _ => false

end Operation

variable {r r₀ : Ring} {h h₀ h' : Host} {op : Operation}

theorem acquireWrite_refused (hd : r.direction = .receive) (h : Host) :
    r.acquireWrite.run h = (.error (.ringProtocol "acquire_for_write on an RX ring"), h) := by
  unfold acquireWrite
  simp only [hd, run_pure]

/-- A refused call changes nothing, neither the ring nor anything on the host. -/
theorem Operation.run_refused {e : LinkError} (hr : op.refusal? r = some e) (h : Host) :
    (op.run r).run h = ((.error e, r), h) := by
  cases op with
  | acquireRead =>
    simp only [refusal?, Option.ite_none_right_eq_some] at hr
    obtain ⟨hd, he⟩ := hr
    cases he
    simp only [run, run_bind, run_pure, acquireRead_refused hd, Except.map]
  | payload slot =>
    simp only [refusal?, Option.ite_none_left_eq_some] at hr
    obtain ⟨hc, he⟩ := hr
    cases he
    simp only [run, run_bind, run_get, run_pure, Ring.payload, if_neg hc, Except.map]
  | releaseRead =>
    simp only [refusal?, Option.ite_none_left_eq_some, Bool.not_eq_true] at hr
    obtain ⟨hc, he⟩ := hr
    cases he
    simp only [run, run_bind, run_pure, releaseRead_run_unclaimed hc, Except.map]
  | acquireWrite =>
    simp only [refusal?, Option.ite_none_right_eq_some] at hr
    obtain ⟨hd, he⟩ := hr
    cases he
    simp only [run, run_bind, run_pure, acquireWrite_refused hd, Except.map]
  | submitWrite slot frame =>
    simp only [run, run_bind, run_pure, submitWrite_run_refused hr, Except.map]

/-- By itself a call comes as far as `h₁`; what is left to do then is to tell the kernel. -/
structure Performed (r : Ring) (h : Host) (op : Operation) (h₁ : Host) : Prop where
  memory : r.memory h₁ = (op.effect r (r.memory h)).memory
  /-- The memory of other rings stays. -/
  elsewhere : ∀ id, id ≠ r.mapping → h₁.memoryOf id = h.memoryOf id
  run : (op.run r).run h =
    let e := op.effect r (r.memory h)
    if op.tells then (((r.told h₁).map fun _ => e.reply, e.ring), r.notified h₁)
    else ((.ok e.reply, e.ring), h₁)

theorem Backed.memory_onMemory (hb : r.Backed h) (change : SlotMemory → SlotMemory) :
    r.memory (h.onMemory r.mapping change) = change (r.memory h) := by
  obtain ⟨k, hk⟩ := exists_mapping (Nat.zero_lt_of_lt hb.cursor_lt_count)
  exact memoryOf_onMemory hk change

/-- A call that is not refused has its effect. -/
theorem performed (hb : r.Backed h) (hn : op.refusal? r = none) : ∃ h₁, Performed r h op h₁ := by
  cases op with
  | acquireRead =>
    have hd : r.direction = .receive := by
      cases hd : r.direction with
      | receive => rfl
      | send => simp [Operation.refusal?, hd] at hn
    obtain ⟨h₁, hrun, hrings⟩ := acquireRead_run hd h
    have hm (id : MappingId) : h₁.memoryOf id = h.memoryOf id :=
      memoryOf_congr (congrArg Rings.mappings hrings) id
    exact ⟨h₁, hm _, fun id _ => hm id, by simp only [Operation.run, run_bind, hrun]; rfl⟩
  | payload slot =>
    have hc : (r.claimed && slot.index = r.cursor) = true := by
      simpa [Operation.refusal?] using hn
    refine ⟨h, rfl, fun _ _ => rfl, ?_⟩
    simp only [Operation.run, run_bind, run_get, run_pure, Ring.payload, if_pos hc, Except.map]
    rfl
  | releaseRead =>
    have hc : r.claimed = true := by simpa [Operation.refusal?] using hn
    refine ⟨_, hb.memory_onMemory fun m => m.setStatus r.cursor free,
      fun id hne => memoryOf_onMemory_of_ne hne _ h, ?_⟩
    simp only [Operation.run, run_bind, releaseRead_run hc]
    rfl
  | acquireWrite =>
    have hd : r.direction = .send := by
      cases hd : r.direction with
      | send => rfl
      | receive => simp [Operation.refusal?, hd] at hn
    exact ⟨h, rfl, fun _ _ => rfl, by simp only [Operation.run, run_bind, acquireWrite_run hd]; rfl⟩
  | submitWrite slot frame =>
    refine ⟨_, hb.memory_onMemory (fill · slot.index frame),
      fun id hne => memoryOf_onMemory_of_ne hne _ h, ?_⟩
    simp only [Operation.run, run_bind, submitWrite_run_told hn]
    rfl

/-! ## What stays -/

/-- What a ring is made with. -/
structure Layout where
  mapping : MappingId
  direction : RingDirection
  slotSize : Nat
  capacity : Nat
  socket : Option PacketSocket

/-- What the ring was made with. -/
def layout (r : Ring) : Layout := ⟨r.mapping, r.direction, r.slotSize, r.capacity, r.socket⟩

theorem Operation.effect_layout (op : Operation) (r : Ring) (m : SlotMemory) :
    (op.effect r m).ring.layout = r.layout := by
  cases op with
  | acquireRead =>
    unfold effect afterAcquire
    dsimp only
    split <;> rfl
  | payload | releaseRead | acquireWrite | submitWrite => rfl

/-- The ring after a call. -/
theorem Backed.ring_run (hb : r.Backed h) (op : Operation) : ((op.run r).run h).1.2 = r ∨
    ((op.run r).run h).1.2 = (op.effect r (r.memory h)).ring := by
  cases hn : op.refusal? r with
  | some e =>
    rw [Operation.run_refused hn]
    exact .inl rfl
  | none =>
    obtain ⟨h₁, hp⟩ := performed hb hn
    rw [hp.run]
    refine .inr ?_
    dsimp only
    split <;> rfl

theorem Backed.layout_run (hb : r.Backed h) (op : Operation) :
    ((op.run r).run h).1.2.layout = r.layout := by
  rcases hb.ring_run op with he | he <;> rw [he]
  exact op.effect_layout r _

/-- A ring stays in use whatever it is asked. -/
theorem Used.called (hu : Used r₀ h₀ r h) (op : Operation) :
    Used r₀ h₀ ((op.run r).run h).1.2 ((op.run r).run h).2 := by
  cases op with
  | acquireRead => exact hu.acquired
  | payload slot => exact hu
  | releaseRead => exact hu.released
  | acquireWrite =>
    cases hd : r.direction with
    | receive =>
      simp only [Operation.run, run_bind, acquireWrite_refused hd]
      exact hu
    | send =>
      simp only [Operation.run, run_bind, acquireWrite_run hd]
      exact hu
  | submitWrite slot frame => exact hu.submitted slot frame

/-! ## Histories -/

/-- How many slots a call handed back to the kernel. -/
def Operation.released : Operation → Except LinkError Reply → Nat
  | .releaseRead, .ok _ => 1
  | _, _ => 0

/-- How many slots a call handed over for sending. -/
def Operation.submitted : Operation → Except LinkError Reply → Nat
  | .submitWrite .., .ok _ | .submitWrite .., .error (.transport ..) => 1
  | _, _ => 0

@[simp] theorem Operation.released_error (op : Operation) (e : LinkError) :
    op.released (.error e) = 0 := by
  cases op <;> rfl

theorem Operation.submitted_refused {e : LinkError} (hr : op.refusal? r = some e) :
    op.submitted (.error e) = 0 := by
  cases op with
  | submitWrite slot frame =>
    have hq := isQueued_refusal hr
    cases e <;> first | rfl | cases hq
  | acquireRead | payload | releaseRead | acquireWrite => rfl

/-- The slots that are given out with an answer. -/
def Reply.given : Except LinkError Reply → List Slot
  | .ok (.slot slot?) => slot?.toList
  | _ => []

/-- A ring with what was asked of it. -/
structure Service where
  host : Host
  ring : Ring
  /-- The slots that were given out. -/
  returned : List Slot := []
  /-- How many slots were handed back. -/
  released : Nat := 0
  /-- How many slots were handed over. -/
  submitted : Nat := 0

namespace Service

/-- The memory of the ring. -/
def memory (s : Service) : SlotMemory := s.ring.memory s.host

/-- A slot that an operation is given is one that the ring gave out. -/
def Allows (s : Service) (op : Operation) : Prop :=
  ∀ slot, op.slot? = some slot → slot ∈ s.returned

/-- The ring after a call. -/
def called (s : Service) (op : Operation) : Service :=
  let outcome := (op.run s.ring).run s.host
  { host := outcome.2
    ring := outcome.1.2
    returned := s.returned ++ Reply.given outcome.1.1
    released := s.released + op.released outcome.1.1
    submitted := s.submitted + op.submitted outcome.1.1 }

/-- A call, or anything that the kernel does: it may write whatever it likes into the slots. -/
inductive Step : Service → Service → Prop where
  | call {s : Service} {op : Operation} (ha : s.Allows op) : Step s (s.called op)
  | kernel {s : Service} {h : Host} (hw : (s.ring.memory h).shape = s.memory.shape) :
    Step s { s with host := h }

/-- What can be reached from a ring as it is on a host. -/
inductive Reachable (h : Host) (r : Ring) : Service → Prop where
  | start : Reachable h r { host := h, ring := r }
  | step {s s' : Service} (hs : Reachable h r s) (ht : Step s s') : Reachable h r s'

variable {s : Service}

theorem Reachable.used (hs : Reachable h₀ r₀ s) : Used r₀ h₀ s.ring s.host := by
  induction hs with
  | start => exact .made
  | step _ ht ih =>
    cases ht with
    | call => exact ih.called _
    | kernel hw => exact ih.written hw

theorem Reachable.backed (hs : Reachable h₀ r₀ s) (hf : r₀.Blank h₀) : s.ring.Backed s.host :=
  hs.used.backed hf

theorem Reachable.layout_eq (hs : Reachable h₀ r₀ s) (hf : r₀.Blank h₀) :
    s.ring.layout = r₀.layout := by
  induction hs with
  | start => rfl
  | step hs ht ih =>
    cases ht with
    | call => exact ((hs.backed hf).layout_run _).trans ih
    | kernel hw => exact ih

end Service

/-- With each slot that a call hands back or over the cursor moves on by one. -/
theorem Backed.cursor_run (hb : r.Backed h) (op : Operation) :
    let outcome := (op.run r).run h
    outcome.1.2.cursor =
      (r.cursor + (op.released outcome.1.1 + op.submitted outcome.1.1)) % r.capacity := by
  have hstays : r.cursor = (r.cursor + 0) % r.capacity := (Nat.mod_eq_of_lt hb.cursor_lt).symm
  cases hn : op.refusal? r with
  | some e =>
    rw [Operation.run_refused hn]
    dsimp only
    rw [Operation.released_error, Operation.submitted_refused hn]
    exact hstays
  | none =>
    obtain ⟨h₁, hp⟩ := performed hb hn
    rw [hp.run]
    cases op with
    | acquireRead =>
      have hcursor : (r.afterAcquire (r.memory h)).cursor = r.cursor := by
        unfold afterAcquire
        split <;> rfl
      exact hcursor.trans hstays
    | payload slot | acquireWrite => exact hstays
    | releaseRead => rfl
    | submitWrite slot frame =>
      simp only [Operation.tells, if_true]
      cases ht : r.told h₁ with
      | ok => rfl
      | error e =>
        obtain ⟨cause, rfl⟩ := told_error ht
        rfl

/-- The cursor counts the slots that were handed back and handed over. -/
theorem Service.Reachable.cursor_eq {s : Service} (hs : Reachable h₀ r₀ s) (hf : r₀.Blank h₀) :
    s.ring.cursor = (s.released + s.submitted) % s.ring.capacity := by
  induction hs with
  | start => simp [hf.cursor]
  | @step s _ hs ht ih =>
    cases ht with
    | @call op ha =>
      have hb := hs.backed hf
      have hc : (s.called op).ring.capacity = s.ring.capacity :=
        congrArg Layout.capacity (hb.layout_run op)
      rw [hc]
      refine (hb.cursor_run op).trans ?_
      rw [ih, Nat.mod_add_mod]
      congr 1
      simp only [called]
      omega
    | kernel hw => exact ih

/-! ## Atomic calls -/

/-- A call was made at a time when it must not be, or with a frame that is too long. -/
def IsRefusal : LinkError → Prop
  | .ringProtocol _ | .frame (.payloadTooLarge ..) => True
  | _ => False

theorem Operation.isRefusal_of_refused {e : LinkError} (hr : op.refusal? r = some e) :
    IsRefusal e := by
  cases op with
  | acquireRead | payload | releaseRead | acquireWrite =>
    simp only [refusal?] at hr
    split at hr <;> cases hr
    trivial
  | submitWrite slot frame =>
    simp only [refusal?, submitRefusal?] at hr
    split at hr
    · cases hr
      trivial
    · split at hr
      · cases hr
        trivial
      · split at hr <;> cases hr
        trivial

/-- A call has its whole effect or none, and none outside the slot at the cursor. -/
structure Atomic (r : Ring) (h : Host) (op : Operation) : Prop where
  /-- What is refused changes nothing, neither the ring nor anything on the host. -/
  refused : ∀ e, ((op.run r).run h).1.1 = .error e → IsRefusal e →
    (op.run r).run h = ((.error e, r), h)
  /-- Beyond that a call only fails to tell the kernel of a frame that it has submitted. -/
  unrefused : ∀ e, ((op.run r).run h).1.1 = .error e → ¬ IsRefusal e →
    (∃ cause, e = .transport "tx ring flush" cause) ∧ op.submitted (.error e) = 1
  /-- A frame that is submitted is in the slot at the cursor, marked for sending, and the cursor
  has moved on, whether the kernel could be told of it or not. If not, that is all. -/
  submitted : ∀ slot frame, op = .submitWrite slot frame →
    op.submitted ((op.run r).run h).1.1 = 1 →
      let filled := h.onMemory r.mapping (fill · r.cursor frame)
      slot.index = r.cursor ∧ ((op.run r).run h).1.2 = r.advance ∧
        ((op.run r).run h).2 = r.notified filled ∧
        ∀ e, ((op.run r).run h).1.1 = .error e → ((op.run r).run h).2.rings = filled.rings
  /-- Up to what the kernel does when it is told, no other slot of any ring is written. -/
  confined : ∃ h₁,
    (((op.run r).run h).2 = h₁ ∨ op.tells = true ∧ ((op.run r).run h).2 = r.notified h₁) ∧
    (∀ j, j ≠ r.cursor → (r.memory h₁).slot j = (r.memory h).slot j) ∧
    ∀ id, id ≠ r.mapping → h₁.memoryOf id = h.memoryOf id

/-- By itself a call leaves the other slots alone. -/
theorem Operation.slot_effect (hn : op.refusal? r = none) (m : SlotMemory) {j : Nat}
    (hj : j ≠ r.cursor) : (op.effect r m).memory.slot j = m.slot j := by
  cases op with
  | acquireRead | payload | acquireWrite => rfl
  | releaseRead => exact slot_setStatus_of_ne m (Ne.symm hj) _
  | submitWrite slot frame =>
    have hx := (submitRefusal?_eq_none_iff.mp hn).2.1
    exact slot_fill_of_ne (by omega) m frame

theorem atomic_refused {e : LinkError} (hr : op.refusal? r = some e) (h : Host) :
    Atomic r h op := by
  have hrun := Operation.run_refused hr h
  refine ⟨fun e' he _ => ?_, fun e' he hn => ?_, fun slot frame hop hq => ?_, ?_⟩
  · rw [hrun] at he ⊢
    cases he
    rfl
  · rw [hrun] at he
    cases he
    exact absurd (Operation.isRefusal_of_refused hr) hn
  · rw [hrun, Operation.submitted_refused hr] at hq
    cases hq
  · exact ⟨h, .inl (by rw [hrun]), fun _ _ => rfl, fun _ _ => rfl⟩

/-- A frame that is not refused is submitted as a whole. -/
theorem submitWrite_whole {slot : Slot} {frame : Bytes}
    (hn : r.submitRefusal? slot frame = none) (h : Host) :
    let filled := h.onMemory r.mapping (fill · r.cursor frame)
    let call := ((Operation.submitWrite slot frame).run r).run h
    slot.index = r.cursor ∧ call.1.2 = r.advance ∧ call.2 = r.notified filled ∧
      ∀ e, call.1.1 = .error e →
        (∃ cause, e = .transport "tx ring flush" cause) ∧ call.2.rings = filled.rings := by
  have hx := (submitRefusal?_eq_none_iff.mp hn).2.1
  have hrun := submitWrite_run_told hn h
  dsimp only
  simp only [Operation.run, run_bind, run_pure, hrun, hx, true_and]
  intro e he
  cases ht : r.told (h.onMemory r.mapping (fill · r.cursor frame)) with
  | ok =>
    rw [ht] at he
    cases he
  | error e' =>
    rw [ht] at he
    cases he
    exact ⟨told_error ht, rings_notified ht⟩

theorem atomic_accepted (hb : r.Backed h) (hn : op.refusal? r = none) : Atomic r h op := by
  obtain ⟨h₁, hp⟩ := performed hb hn
  have herr (e : LinkError) (he : ((op.run r).run h).1.1 = .error e) :
      (∃ cause, e = .transport "tx ring flush" cause) ∧ op.tells = true := by
    cases op with
    | submitWrite slot frame => exact ⟨((submitWrite_whole hn h).2.2.2 e he).1, rfl⟩
    | acquireRead | payload | releaseRead | acquireWrite =>
      rw [hp.run] at he
      cases he
  refine ⟨fun e he hr => ?_, fun e he _ => ?_, fun slot frame hop _ => ?_, h₁, ?_, ?_, hp.elsewhere⟩
  · obtain ⟨⟨cause, rfl⟩, -⟩ := herr e he
    cases hr
  · obtain ⟨⟨cause, rfl⟩, htells⟩ := herr e he
    cases op with
    | submitWrite => exact ⟨⟨cause, rfl⟩, rfl⟩
    | acquireRead | payload | releaseRead | acquireWrite => cases htells
  · subst hop
    obtain ⟨hx, hring, hhost, hfail⟩ := submitWrite_whole hn h
    exact ⟨hx, hring, hhost, fun e he => (hfail e he).2⟩
  · rw [hp.run]
    dsimp only
    split
    · exact .inr ⟨‹_›, rfl⟩
    · exact .inl rfl
  · intro j hj
    rw [hp.memory]
    exact Operation.slot_effect hn _ hj

/-- However a ring was used and whatever the kernel wrote into it, the cursor counts the slots
handed back and handed over, and every call is atomic. -/
theorem calls_atomic {s : Service} (hf : r₀.Fresh h₀) (hs : s.Reachable h₀ r₀) (op : Operation) :
    s.ring.cursor = (s.released + s.submitted) % s.ring.capacity ∧ Atomic s.ring s.host op := by
  refine ⟨hs.cursor_eq hf.toBlank, ?_⟩
  cases hn : op.refusal? s.ring with
  | some e => exact atomic_refused hn _
  | none => exact atomic_accepted (hs.backed hf.toBlank) hn

/-- A frame is submitted of which the kernel cannot be told, and its slot is submitted again. -/
theorem calls_atomic_pair : ∃ s : Service,
    s.Reachable (pairHost .send (some ⟨⟨0⟩⟩) { failures := [(.send, [105])] })
      (pair .send (some ⟨⟨0⟩⟩)) ∧
    s.submitted = 1 ∧ s.ring.cursor = (s.released + s.submitted) % s.ring.capacity ∧
      Atomic s.ring s.host (.submitWrite ⟨0, .ownedByUser, 0, 32, 96, 0⟩ [4]) := by
  have h₁ := (Service.Reachable.start (h := pairHost .send (some ⟨⟨0⟩⟩)
    { failures := [(.send, [105])] }) (r := pair .send (some ⟨⟨0⟩⟩))).step
      (@Service.Step.call _ .acquireWrite (by intro slot hs; cases hs))
  have h₂ := h₁.step (@Service.Step.call _ (.submitWrite ⟨0, .ownedByUser, 0, 32, 96, 0⟩ [1, 2, 3])
    (by intro slot hs; cases hs; decide +kernel))
  exact ⟨_, h₂, by decide +kernel, calls_atomic (pair_fresh _ _ _) h₂ _⟩

end PacketLink.Ring
