import PacketLink.Proofs.Ring.Service
import PacketLink.Proofs.Traffic.Passage

/-!
# What a transmitter counts

* `Ring.IsOutgoing`: frames can go out through a ring. So they can however it was used
  (`Service.Reachable.isOutgoing`).
* `Transmitter.HandsOver`: a turn hands the test frame to the kernel: the call that sends takes all
  of it, or the slot at the cursor holds it and is marked for sending.
* `Transmitter.onReady_cases`: a turn hands nothing over (`Kept`), or hands the frame over and
  counts it (`Counted`), or hands it over and fails to tell the kernel (`Uncounted`).
* `Transmitter.IsTruthful`: a turn counts the frame exactly if it hands it over, it pauses exactly
  then, and otherwise leaves nothing behind for sending.
* `Transmitter.Run`: turns, one after the other, while the kernel does what it likes in between.
* `sent_truthful_iff`: the frames handed over are those counted and those of which the kernel could
  not be told. So the counter is right exactly if the kernel could always be told.
-/

namespace PacketLink

open Host PacketLink.Ring SlotMemory

/-! ## Rings that frames go out through -/

/-- A ring for sending that is there, with room for frames in its slots. -/
structure Ring.IsOutgoing (r : Ring) (h : Host) : Prop where
  direction : r.direction = .send
  backed : r.Backed h
  two_le : 2 ≤ r.capacity
  room : sendOffset ≤ r.slotSize
  slotSize_lt : r.slotSize < Nat.pow 256 4

namespace Ring

variable {r : Ring} {h h' : Host}

theorem Fresh.isOutgoing (hf : r.Fresh h) (hd : r.direction = .send)
    (hs : sendOffset ≤ r.slotSize) : r.IsOutgoing h := by
  have hframes := hf.frames
  simp only [isFrameCount, Bool.and_eq_true, decide_eq_true_eq] at hframes
  exact ⟨hd, hf.backed, hframes.1, hs, hf.slotSize⟩

/-- However a ring was used, frames can still go out through it. -/
theorem Service.Reachable.isOutgoing {r₀ : Ring} {h₀ : Host} {s : Service}
    (hs : s.Reachable h₀ r₀) (hf : r₀.Fresh h₀) (hd : r₀.direction = .send)
    (hroom : sendOffset ≤ r₀.slotSize) : s.ring.IsOutgoing s.host := by
  have hl := hs.layout_eq hf.toBlank
  have hframes := (hf.isOutgoing hd hroom).two_le
  have hsize : s.ring.slotSize = r₀.slotSize := congrArg Layout.slotSize hl
  have hcapacity : s.ring.capacity = r₀.capacity := congrArg Layout.capacity hl
  exact ⟨(congrArg Layout.direction hl).trans hd, hs.backed hf.toBlank, hcapacity ▸ hframes,
    hsize ▸ hroom, hsize ▸ hf.slotSize⟩

theorem IsOutgoing.of_shape (ho : r.IsOutgoing h)
    (hs : (r.memory h').shape = (r.memory h).shape) : r.IsOutgoing h' :=
  ⟨ho.direction, ho.backed.of_shape hs, ho.two_le, ho.room, ho.slotSize_lt⟩

theorem IsOutgoing.advance (ho : r.IsOutgoing h) : r.advance.IsOutgoing h :=
  ⟨ho.direction, ho.backed.advance, ho.two_le, ho.room, ho.slotSize_lt⟩

/-- The cursor of a ring that has moved on is at another slot. -/
theorem IsOutgoing.advance_ne (ho : r.IsOutgoing h) : r.advance ≠ r := by
  intro he
  have htwo := ho.two_le
  have hc : (r.cursor + 1) % r.capacity = r.cursor % r.capacity :=
    (congrArg Ring.cursor he).trans (Nat.mod_eq_of_lt ho.backed.cursor_lt).symm
  exact mod_ne_mod (a := r.cursor) (by omega) (by omega) (by omega) hc

end Ring

namespace Transmitter

variable {x x' : Transmitter} {r : Ring} {h h' : Host} {f : Frame}

/-! ## Frames that are handed over -/

/-- A turn hands the test frame to the kernel: the call that sends takes the whole of it, or it is
put into the slot at the cursor and marked for sending, before the ring moves on and the kernel is
told. -/
inductive HandsOver (x : Transmitter) (h : Host) : Prop where
  | socket {s : PacketSocket} {f : Frame} (hc : x.channel = .socket s) (hf : x.plan.frame = .ok f)
      (ht : (x.onReady.run h).2.trace =
        .sendTo s.id f.encode x.plan.destination (.ok f.encode.length) :: h.trace)
  | ring {r : Ring} {f : Frame} {h₁ : Host} (hc : x.channel = .ring r) (hf : x.plan.frame = .ok f)
      (hq : (r.memory h₁).queued r.cursor = f.encode)
      (hs : (r.memory h₁).status r.cursor = sendRequest)
      (hn : (x.onReady.run h).2 = r.notified h₁)
      (hm : (x.onReady.run h).1.2.channel = .ring r.advance)

/-- How often the kernel could not be told of a frame: once, if this is what a turn answers. -/
def untold : Except LinkError Dispatch → Nat
  | .error (.transport operation _) => if operation = "tx ring flush" then 1 else 0
  | _ => 0

/-- All rings that frames go out through are there. -/
def Ready (x : Transmitter) (h : Host) : Prop := ∀ r, x.channel = .ring r → r.IsOutgoing h

/-- A turn hands nothing over. -/
structure Kept (x : Transmitter) (h : Host) : Prop where
  ready : (x.onReady.run h).1.2.Ready (x.onReady.run h).2
  nothing : ¬ x.HandsOver h
  answer : ∀ ms, (x.onReady.run h).1.1 ≠ .ok (.pause ms)
  told : untold (x.onReady.run h).1.1 = 0
  sent : (x.onReady.run h).1.2.sent = x.sent
  rings : (x.onReady.run h).2.rings = h.rings

/-- A turn hands the frame over, counts it and pauses. -/
structure Counted (x : Transmitter) (h : Host) : Prop where
  ready : (x.onReady.run h).1.2.Ready (x.onReady.run h).2
  handed : x.HandsOver h
  answer : (x.onReady.run h).1.1 = .ok (.pause x.plan.delay)
  sent : (x.onReady.run h).1.2.sent = x.sent + 1

/-- A turn hands the frame over and does not count it: the kernel could not be told, and the frame
waits in its slot. -/
structure Uncounted (x : Transmitter) (h : Host) : Prop where
  ready : (x.onReady.run h).1.2.Ready (x.onReady.run h).2
  handed : x.HandsOver h
  answer : ∃ cause, (x.onReady.run h).1.1 = .error (.transport "tx ring flush" cause)
  sent : (x.onReady.run h).1.2.sent = x.sent
  waits : ∃ r f, x.channel = .ring r ∧ x.plan.frame = .ok f ∧
    (r.memory (x.onReady.run h).2).queued r.cursor = f.encode ∧
    (r.memory (x.onReady.run h).2).status r.cursor = sendRequest

/-! ## The ends of a turn -/

/-- What a turn makes of the answer to sending. -/
def concluded (x : Transmitter) : Except LinkError Bool → Except LinkError Dispatch × Transmitter
  | .error e => (.error e, x)
  | .ok false => (.ok .idle, x)
  | .ok true => (.ok (.pause x.plan.delay), { x with sent := x.sent + 1 })

theorem onReady_concluded (hf : x.plan.frame = .ok f) (h : Host) :
    x.onReady.run h = (((x.send f.encode).run h).1.2.concluded ((x.send f.encode).run h).1.1,
      ((x.send f.encode).run h).2) := by
  unfold onReady
  simp only [hf, run_bind]
  generalize (x.send f.encode).run h = sent
  obtain ⟨⟨e | b, x'⟩, h'⟩ := sent
  · rfl
  · cases b <;> rfl

/-- Without a test frame nothing happens. -/
theorem kept_of_error {e : FrameError} (hx : x.Ready h) (hf : x.plan.frame = .error e) :
    x.Kept h := by
  have hrun : x.onReady.run h = ((.error (.frame e), x), h) := by
    unfold onReady
    simp only [hf, run_pure]
  have hnothing : ¬ x.HandsOver h := by
    rintro (⟨-, hok, -⟩ | ⟨-, hok, -⟩) <;> cases hf.symm.trans hok
  exact {
    ready := by rw [hrun]; exact hx
    nothing := hnothing
    answer := by rw [hrun]; exact nofun
    told := by rw [hrun]; rfl
    sent := by rw [hrun]
    rings := by rw [hrun] }

/-- A send that takes nothing ends the turn as it ended itself. -/
theorem kept_of_send {sent : Except LinkError Bool} (hf : x.plan.frame = .ok f)
    (hsend : (x.send f.encode).run h = ((sent, x'), h')) (hx : x'.Ready h')
    (hno : sent = .ok false ∨ ∃ e, sent = .error e ∧ untold (.error e) = 0)
    (hsent : x'.sent = x.sent) (hr : h'.rings = h.rings) (hn : ¬ x.HandsOver h) : x.Kept h := by
  obtain ⟨answer, hrun, hanswer, htold⟩ : ∃ answer, x.onReady.run h = ((answer, x'), h') ∧
      (∀ ms, answer ≠ .ok (.pause ms)) ∧ untold answer = 0 := by
    have hrun := onReady_concluded hf h
    rw [hsend] at hrun
    obtain rfl | ⟨e, rfl, he⟩ := hno
    · exact ⟨.ok .idle, hrun, nofun, rfl⟩
    · exact ⟨.error e, hrun, nofun, he⟩
  exact {
    ready := by rw [hrun]; exact hx
    nothing := hn
    answer := by rw [hrun]; exact hanswer
    told := by rw [hrun]; exact htold
    sent := by rw [hrun]; exact hsent
    rings := by rw [hrun]; exact hr }

/-- What sending through a socket makes of the answer of the call. -/
def taken (length : Nat) : Outcome Nat → Except LinkError Bool
  | .error e => if e = .wouldBlock then .ok false else .error (.transport "sendto" e)
  | .ok written => if written = length then .ok true else .error (.shortSend written length)

theorem send_socket_run {s : PacketSocket} (hc : x.channel = .socket s) (bytes : Bytes) (h : Host) :
    (x.send bytes).run h =
      ((taken bytes.length ((sendTo s.id bytes x.plan.destination).run h).1, x),
        ((sendTo s.id bytes x.plan.destination).run h).2) := by
  unfold send sendToSocket PacketSocket.send
  simp only [hc, run_bind]
  generalize (sendTo s.id bytes x.plan.destination).run h = call
  obtain ⟨e | written, h'⟩ := call <;> rfl

/-- Only a call that took the whole frame counts. -/
theorem taken_cases (length : Nat) (outcome : Outcome Nat) :
    outcome = .ok length ∧ taken length outcome = .ok true ∨
    outcome ≠ .ok length ∧ (taken length outcome = .ok false ∨
      ∃ e, taken length outcome = .error e ∧ untold (.error e) = 0) := by
  cases outcome with
  | error e =>
    refine .inr ⟨nofun, ?_⟩
    by_cases he : e = .wouldBlock
    · exact .inl (if_pos he)
    · exact .inr ⟨_, if_neg he, by simp [untold]⟩
  | ok written =>
    by_cases hw : written = length
    · exact .inl ⟨congrArg _ hw, if_pos hw⟩
    · exact .inr ⟨fun he => hw (Except.ok.inj he), .inr ⟨_, if_neg hw, rfl⟩⟩

/-- Through a socket a frame is handed over if the call took all of it, and then it is counted. -/
theorem onReady_socket {s : PacketSocket} (hc : x.channel = .socket s)
    (hf : x.plan.frame = .ok f) : x.Kept h ∨ x.Counted h := by
  have hready (x' : Transmitter) (h' : Host) (hx : x'.channel = x.channel) : x'.Ready h' :=
    fun r hr => by cases (hx.trans hc).symm.trans hr
  have hsend := send_socket_run hc f.encode h
  have hrun := onReady_concluded hf h
  have hrecord := sendTo_record s.id f.encode x.plan.destination h
  have hrings := sendTo_keeps s.id f.encode x.plan.destination h
  generalize (sendTo s.id f.encode x.plan.destination).run h = call at hsend hrecord hrings
  obtain ⟨outcome, h'⟩ := call
  rw [hsend] at hrun
  rcases taken_cases f.encode.length outcome with ⟨rfl, htaken⟩ | ⟨hne, hno⟩
  · dsimp only at hrun
    rw [htaken] at hrun
    exact .inr {
      ready := by rw [hrun]; exact hready _ _ rfl
      handed := .socket hc hf (by rw [hrun]; exact hrecord)
      answer := by rw [hrun]; rfl
      sent := by rw [hrun]; rfl }
  · refine .inl (kept_of_send hf hsend (hready x h' rfl) hno rfl hrings ?_)
    rintro (⟨hc', hf', ht⟩ | ⟨hc', -⟩)
    · cases hc.symm.trans hc'
      cases hf.symm.trans hf'
      rw [hrun] at ht
      have hevent := (List.cons.inj (hrecord.symm.trans ht)).1
      exact hne (Event.sendTo.inj hevent).2.2.2
    · cases hc.symm.trans hc'

theorem send_ring_run (hc : x.channel = .ring r) (bytes : Bytes) (h : Host) :
    (x.send bytes).run h = ((((sendToRing r bytes).run h).1.1,
      { x with channel := .ring ((sendToRing r bytes).run h).1.2 }),
        ((sendToRing r bytes).run h).2) := by
  unfold send
  simp only [hc, run_bind, run_pure]

/-- Whoever hands a frame over through a ring moves on. -/
theorem not_handsOver_of_ring (hc : x.channel = .ring r) (ho : r.IsOutgoing h)
    (hstays : (x.onReady.run h).1.2.channel = .ring r) : ¬ x.HandsOver h := by
  rintro (⟨hc', -⟩ | ⟨hc', -, -, -, -, hm⟩)
  · cases hc.symm.trans hc'
  · cases hc.symm.trans hc'
    exact ho.advance_ne (Channel.ring.inj (hm.symm.trans hstays))

/-- A ring that has no slot for the frame, or refuses it, stays as it is. -/
theorem kept_of_ring {sent : Except LinkError Bool} (hc : x.channel = .ring r)
    (hf : x.plan.frame = .ok f) (ho : r.IsOutgoing h)
    (hring : (sendToRing r f.encode).run h = ((sent, r), h')) (hr : h'.rings = h.rings)
    (hno : sent = .ok false ∨ ∃ e, sent = .error e ∧ untold (.error e) = 0) : x.Kept h := by
  have hsend := send_ring_run hc f.encode h
  rw [hring] at hsend
  refine kept_of_send hf hsend (fun r' hr' => ?_) hno rfl hr (not_handsOver_of_ring hc ho ?_)
  · cases hr'
    exact ho.of_shape (memory_of_rings hr r.mapping)
  · rw [(onReady_send hf h).2, hsend]

theorem untold_refused {slot : Slot} {bytes : Bytes} {e : LinkError}
    (hr : r.submitRefusal? slot bytes = some e) : untold (.error e) = 0 := by
  have hq := isQueued_refusal hr
  cases e with
  | transport => cases hq
  | _ => rfl

/-- A frame that goes into the slot at the cursor is there for sending. -/
theorem marked {slot : Slot} {bytes : Bytes} (ho : r.IsOutgoing h)
    (hw : r.writeSlot? (r.memory h) = some slot) (hn : r.submitRefusal? slot bytes = none) :
    let filled := h.onMemory r.mapping fun m => fill m slot.index bytes
    (r.memory filled).queued r.cursor = bytes ∧ (r.memory filled).status r.cursor = sendRequest ∧
      r.IsOutgoing filled := by
  obtain ⟨-, hindex, -, -, hbytes⟩ := writeSlot?_eq_some hw
  have hlength := (submitRefusal?_eq_none_iff.mp hn).2.2.2
  have hroom := ho.room
  have hlt := ho.slotSize_lt
  rw [hbytes, sendCapacity] at hlength
  dsimp only
  have hm := ho.backed.memory_onMemory fun m => fill m slot.index bytes
  have hslot := ho.backed.length_cursor
  refine ⟨?_, ?_, ho.of_shape (by rw [hm]; exact shape_fill ..)⟩
  · rw [hm, hindex]
    exact queued_fill (by omega) (by omega)
  · rw [hm, hindex]
    exact status_fill (by unfold sendOffset at hroom; omega) bytes

/-- A frame that was put into the slot at the cursor is counted if the kernel can be told of it. -/
theorem handed_of_filled {filled : Host} (hc : x.channel = .ring r) (hf : x.plan.frame = .ok f)
    (hring : (sendToRing r f.encode).run h =
      (((r.told filled).map fun _ => true, r.advance), r.notified filled))
    (hq : (r.memory filled).queued r.cursor = f.encode)
    (hs : (r.memory filled).status r.cursor = sendRequest) (ho : r.IsOutgoing filled) :
    x.Counted h ∨ x.Uncounted h := by
  have hsend := send_ring_run hc f.encode h
  rw [hring] at hsend
  have hrun := onReady_concluded hf h
  rw [hsend] at hrun
  have hready (x' : Transmitter) (hx' : x'.channel = .ring r.advance) :
      x'.Ready (r.notified filled) := by
    intro r' hr'
    cases hx'.symm.trans hr'
    exact (ho.of_shape (notified_memory shape_setStatus r r.mapping _)).advance
  cases ht : r.told filled with
  | ok =>
    rw [ht] at hrun
    exact .inl {
      ready := by rw [hrun]; exact hready _ rfl
      handed := .ring hc hf hq hs (by rw [hrun]) (by rw [hrun]; rfl)
      answer := by rw [hrun]; rfl
      sent := by rw [hrun]; rfl }
  | error e =>
    obtain ⟨cause, rfl⟩ := told_error ht
    have hmemory : r.memory (r.notified filled) = r.memory filled :=
      memoryOf_congr (congrArg Rings.mappings (rings_notified ht)) r.mapping
    rw [ht] at hrun
    exact .inr {
      ready := by rw [hrun]; exact hready _ rfl
      handed := .ring hc hf hq hs (by rw [hrun]) (by rw [hrun]; rfl)
      answer := ⟨cause, by rw [hrun]; rfl⟩
      sent := by rw [hrun]; rfl
      waits := ⟨r, f, hc, hf, by rw [hrun, hmemory]; exact hq, by rw [hrun, hmemory]; exact hs⟩ }

/-- Through a ring a frame is handed over if there is a slot for it. -/
theorem onReady_ring (hc : x.channel = .ring r) (hf : x.plan.frame = .ok f)
    (ho : r.IsOutgoing h) : x.Kept h ∨ x.Counted h ∨ x.Uncounted h := by
  cases hw : r.writeSlot? (r.memory h) with
  | none =>
    exact .inl (kept_of_ring hc hf ho (sendToRing_run_none ho.direction hw f.encode) rfl (.inl rfl))
  | some slot =>
    -- A report of the frame that was refused in the slot may come first.
    obtain ⟨h₁, hrings, -, hsent⟩ := sendToRing_run ho.direction hw f.encode
    have hmemory : r.memory h₁ = r.memory h :=
      memoryOf_congr (congrArg Rings.mappings hrings) r.mapping
    cases hn : r.submitRefusal? slot f.encode with
    | some e =>
      exact .inl (kept_of_ring hc hf ho (hsent (submitWrite_run_refused hn h₁)) hrings
        (.inr ⟨e, rfl, untold_refused hn⟩))
    | none =>
      have ho₁ : r.IsOutgoing h₁ := ho.of_shape (congrArg shape hmemory)
      obtain ⟨hq, hs, hfilled⟩ := marked ho₁ (hmemory ▸ hw) hn
      exact .inr (handed_of_filled hc hf (hsent (submitWrite_run_told hn h₁)) hq hs hfilled)

theorem onReady_cases (hx : x.Ready h) : x.Kept h ∨ x.Counted h ∨ x.Uncounted h := by
  cases hf : x.plan.frame with
  | error e => exact .inl (kept_of_error hx hf)
  | ok f =>
    cases hc : x.channel with
    | socket s => exact (onReady_socket hc hf).imp_right .inl
    | ring r => exact onReady_ring hc hf (hx r hc)

/-! ## Turns that count right -/

/-- A turn counts the frame exactly if it hands it over, it pauses exactly then, and otherwise it
leaves the ring and what has gone out as they were. -/
structure IsTruthful (x : Transmitter) (h : Host) : Prop where
  sent : x.HandsOver h ∧ (x.onReady.run h).1.2.sent = x.sent + 1 ∨
    ¬ x.HandsOver h ∧ (x.onReady.run h).1.2.sent = x.sent
  pause : (x.onReady.run h).1.1 = .ok (.pause x.plan.delay) ↔ x.HandsOver h
  nothing : (x.onReady.run h).1.1 ≠ .ok (.pause x.plan.delay) →
    (x.onReady.run h).2.rings = h.rings

theorem untold_eq_zero_iff (answer : Except LinkError Dispatch) :
    untold answer = 0 ↔ ∀ cause, answer ≠ .error (.transport "tx ring flush" cause) := by
  constructor
  · rintro h cause rfl
    cases h
  · intro h
    unfold untold
    split
    · split
      · subst_vars
        exact absurd rfl (h _)
      · rfl
    · rfl

theorem Uncounted.untold_eq (hu : x.Uncounted h) : untold (x.onReady.run h).1.1 = 1 := by
  obtain ⟨cause, he⟩ := hu.answer
  rw [he]
  rfl

theorem Counted.untold_eq (hc : x.Counted h) : untold (x.onReady.run h).1.1 = 0 := by
  rw [hc.answer]
  rfl

theorem onReady_ready (hx : x.Ready h) : (x.onReady.run h).1.2.Ready (x.onReady.run h).2 := by
  obtain hk | hc | hu := onReady_cases hx
  · exact hk.ready
  · exact hc.ready
  · exact hu.ready

/-- What a turn hands over it counts, or could not tell the kernel of. -/
theorem handsOver_iff (hx : x.Ready h) : x.HandsOver h ↔
    (x.onReady.run h).1.2.sent + untold (x.onReady.run h).1.1 = x.sent + 1 := by
  obtain hk | hc | hu := onReady_cases hx
  · rw [hk.sent, hk.told]
    exact iff_of_false hk.nothing (by omega)
  · rw [hc.sent, hc.untold_eq]
    exact iff_of_true hc.handed rfl
  · rw [hu.sent, hu.untold_eq]
    exact iff_of_true hu.handed rfl

theorem not_handsOver_iff (hx : x.Ready h) : ¬ x.HandsOver h ↔
    (x.onReady.run h).1.2.sent + untold (x.onReady.run h).1.1 = x.sent := by
  obtain hk | hc | hu := onReady_cases hx
  · rw [hk.sent, hk.told]
    exact iff_of_true hk.nothing rfl
  · rw [hc.sent, hc.untold_eq]
    exact iff_of_false (not_not_intro hc.handed) (by omega)
  · rw [hu.sent, hu.untold_eq]
    exact iff_of_false (not_not_intro hu.handed) (by omega)

theorem isTruthful_iff (hx : x.Ready h) :
    x.IsTruthful h ↔ untold (x.onReady.run h).1.1 = 0 := by
  obtain hk | hc | hu := onReady_cases hx
  · have hne := hk.answer x.plan.delay
    exact iff_of_true ⟨.inr ⟨hk.nothing, hk.sent⟩, iff_of_false hne hk.nothing, fun _ => hk.rings⟩
      hk.told
  · exact iff_of_true ⟨.inl ⟨hc.handed, hc.sent⟩, iff_of_true hc.answer hc.handed,
      fun hne => absurd hc.answer hne⟩ hc.untold_eq
  · rw [hu.untold_eq]
    refine iff_of_false (fun ht => ?_) (by omega)
    obtain ⟨cause, he⟩ := hu.answer
    cases he.symm.trans (ht.pause.mpr hu.handed)

/-! ## Runs -/

/-- What can have become of a transmitter and its host after some turns: how many frames were
handed over, and of how many the kernel could not be told. Between turns the kernel writes into the
slots of the ring, and anything else may change on the host. -/
inductive Run (x : Transmitter) (h : Host) : Nat → Nat → Transmitter → Host → Prop where
  | start : Run x h 0 0 x h
  | elsewhere {n k : Nat} {x' : Transmitter} {h' h'' : Host} (hr : Run x h n k x' h')
      (hw : ∀ r, x'.channel = .ring r → (r.memory h'').shape = (r.memory h').shape) :
    Run x h n k x' h''
  | handed {n k : Nat} {x' : Transmitter} {h' : Host} (hr : Run x h n k x' h')
      (hh : x'.HandsOver h') :
    Run x h (n + 1) (k + untold (x'.onReady.run h').1.1) (x'.onReady.run h').1.2
      (x'.onReady.run h').2
  | kept {n k : Nat} {x' : Transmitter} {h' : Host} (hr : Run x h n k x' h')
      (hh : ¬ x'.HandsOver h') :
    Run x h n (k + untold (x'.onReady.run h').1.1) (x'.onReady.run h').1.2 (x'.onReady.run h').2

theorem Run.ready {n k : Nat} (hr : Run x h n k x' h') (hx : x.Ready h) : x'.Ready h' := by
  induction hr with
  | start => exact hx
  | elsewhere _ hw ih => exact fun r hc => (ih r hc).of_shape (hw r hc)
  | handed _ _ ih => exact onReady_ready ih
  | kept _ _ ih => exact onReady_ready ih

theorem Run.sent_add {n k : Nat} (hr : Run x h n k x' h') (hx : x.Ready h) :
    x'.sent + k = x.sent + n := by
  induction hr with
  | start => rfl
  | elsewhere _ _ ih => exact ih
  | handed hr hh ih =>
    have := (handsOver_iff (hr.ready hx)).mp hh
    omega
  | kept hr hh ih =>
    have := (not_handsOver_iff (hr.ready hx)).mp hh
    omega

/-- After any turns the frames handed over are those counted and those of which the kernel could
not be told, so the counter is right exactly if there is none of these. The next turn counts right
unless it cannot tell the kernel of its frame; then the frame waits in its slot, uncounted. -/
theorem sent_truthful_iff {n k : Nat} (hx : x.Ready h) (hr : Run x h n k x' h') :
    x'.sent + k = x.sent + n ∧ (x'.sent = x.sent + n ↔ k = 0) ∧
      (x'.IsTruthful h' ↔
        ∀ cause, (x'.onReady.run h').1.1 ≠ .error (.transport "tx ring flush" cause)) ∧
      ∀ cause, (x'.onReady.run h').1.1 = .error (.transport "tx ring flush" cause) →
        x'.Uncounted h' := by
  have hsent := hr.sent_add hx
  have hx' := hr.ready hx
  refine ⟨hsent, by omega, (isTruthful_iff hx').trans (untold_eq_zero_iff _), fun cause he => ?_⟩
  have hone : untold (x'.onReady.run h').1.1 = 1 := by rw [he]; rfl
  obtain hk | hc | hu := onReady_cases hx'
  · cases hk.told.symm.trans hone
  · cases hc.untold_eq.symm.trans hone
  · exact hu

/-- Frames of three bytes through the smallest ring of a socket. -/
def pairTransmitter : Transmitter :=
  ⟨.ring (.pair .send (some ⟨⟨0⟩⟩)), ⟨.ieee8023, .zero, 0x88B5, 1, 3, 100⟩, 0⟩

/-- A host that cannot be told of the first frame. -/
def deafHost : Host := Ring.pairHost .send (some ⟨⟨0⟩⟩) { failures := [(.send, [11])] }

theorem pairTransmitter_ready : pairTransmitter.Ready deafHost := by
  intro r hr
  cases hr
  exact (Ring.pair_fresh _ _ _).isOutgoing rfl (by decide)

/-- Two frames leave with the second of two turns, and one is counted. -/
theorem pair_undercount : ∃ n k x' h', Run pairTransmitter deafHost n k x' h' ∧ n = 2 ∧ k = 1 ∧
    x'.sent = 1 ∧ h'.sentFrames.length = 2 := by
  have hx := pairTransmitter_ready
  have h₁ := Run.start.handed ((handsOver_iff hx).mpr (by decide +kernel))
  have h₂ := h₁.handed ((handsOver_iff (h₁.ready hx)).mpr (by decide +kernel))
  exact ⟨_, _, _, _, h₂, rfl, by decide +kernel, by decide +kernel, by decide +kernel⟩

theorem sent_truthful_iff_pair : ∃ n k x' h', Run pairTransmitter deafHost n k x' h' ∧
    n = 2 ∧ k = 1 ∧ x'.sent + k = pairTransmitter.sent + n ∧
      (x'.sent = pairTransmitter.sent + n ↔ k = 0) ∧
      (x'.IsTruthful h' ↔
        ∀ cause, (x'.onReady.run h').1.1 ≠ .error (.transport "tx ring flush" cause)) ∧
      ∀ cause, (x'.onReady.run h').1.1 = .error (.transport "tx ring flush" cause) →
        x'.Uncounted h' := by
  obtain ⟨n, k, x', h', hr, hn, hk, -⟩ := pair_undercount
  exact ⟨n, k, x', h', hr, hn, hk, sent_truthful_iff pairTransmitter_ready hr⟩

/-- Not every frame that is handed over is counted. -/
theorem not_sent_truthful_pair : ¬ ∀ (x : Transmitter) (h : Host) (n k : Nat) (x' : Transmitter)
    (h' : Host), x.Ready h → Run x h n k x' h' → x'.sent = x.sent + n := by
  intro hall
  obtain ⟨n, k, x', h', hr, hn, -, hsent, -⟩ := pair_undercount
  have htwo := hall _ _ _ _ x' h' pairTransmitter_ready hr
  rw [hsent, hn] at htwo
  cases htwo

end Transmitter

end PacketLink
