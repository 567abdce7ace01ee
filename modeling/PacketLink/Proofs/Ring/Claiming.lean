import PacketLink.Proofs.Ring.Service

/-!
# Claims between two releases

A program asks for the slot at the cursor as often as it likes before it hands the slot back. The
kernel leaves a claimed slot alone and does whatever else it likes.

* `receive_call`: what a call can do on a ring for receiving. It claims, hands back, or changes
  nothing.
* `Claiming`: a ring with the slots that it gave out since the last release, and with the status
  word of every slot that was claimed.
* `Claiming.Consistent`: what holds of all that can be reached (`Consistent.called`,
  `Consistent.step`, `Reachable.consistent`).
* `claimed_once`: asking again answers the same slot and changes nothing, and each claim of a slot
  that carries the mark of lost frames counts one loss and reads the counters once.
-/

namespace PacketLink

/-! ## Readings of the counters -/

/-- Whether the counters of a socket were read, or could not be read. -/
def Host.Event.readsCounters (s : Host.SocketId) : Host.Event → Bool
  | .statistics s' _ => s' = s
  | _ => false

/-- How often the counters of a socket were read. -/
def Host.counterReads (h : Host) (s : Host.SocketId) : Nat :=
  h.trace.countP (Event.readsCounters s)

theorem Host.counterReads_onMemory (h : Host) (id : MappingId) (change : SlotMemory → SlotMemory)
    (s : SocketId) : (h.onMemory id change).counterReads s = h.counterReads s := rfl

namespace Ring

open Host SlotMemory

variable {r r₀ : Ring} {h h₀ : Host} {m : SlotMemory} {op : Operation}

theorem readStatistics_trace (s : SocketId) (h : Host) : ∃ outcome,
    ((readStatistics s).run h).2.trace = .statistics s outcome :: h.trace :=
  ⟨_, attempt_trace (Keeps.get.bind fun _ => Keeps.pure _) h⟩

/-- Reporting a loss reads the counters of the ring's socket once, whether it can or not. -/
theorem reportLoss_counterReads {socket : PacketSocket} (hs : r.socket = some socket) (h : Host) :
    (r.reportLoss.run h).2.counterReads socket.id = h.counterReads socket.id + 1 := by
  obtain ⟨outcome, htrace⟩ := readStatistics_trace socket.id h
  have hlast : (r.reportLoss.run h).2.trace = ((readStatistics socket.id).run h).2.trace := by
    unfold reportLoss
    simp only [hs, run_bind]
    cases ((readStatistics socket.id).run h).1 <;> rfl
  unfold counterReads
  rw [hlast, htrace, List.countP_cons_of_pos]
  simp [Event.readsCounters]

/-! ## One call -/

/-- The losses that asking for a slot that is there counts: one, if the slot carries the mark and
was not claimed before. -/
def newLosses (r : Ring) (m : SlotMemory) : Nat :=
  if isLosing (m.status r.cursor) && !r.claimed then 1 else 0

theorem newLosses_claimed (hc : r.claimed = true) : r.newLosses m = 0 := by
  simp [newLosses, hc]

/-- The ring with the slot at the cursor claimed. -/
def claim (r : Ring) (m : SlotMemory) : Ring :=
  { r with claimed := true, lossReports := r.lossReports + r.newLosses m }

theorem claim_again (hc : r.claimed = true) : r.claim m = r := by
  obtain ⟨_, _, _, _, _, claimed, _, _⟩ := r
  cases (show claimed = true from hc)
  simp [claim, newLosses]

/-- Claiming a slot that is there. The counters are read as often as a loss is counted, and without
a loss nothing happens on the host. -/
theorem acquireRead_claim {slot : Slot} (hd : r.direction = .receive)
    (hs : r.readSlot? (r.memory h) = some slot) :
    ∃ h', r.acquireRead.run h = ((.ok (some slot), r.claim (r.memory h)), h') ∧
      h'.mappings = h.mappings ∧ (r.newLosses (r.memory h) = 0 → h' = h) ∧
      ∀ socket, r.socket = some socket →
        h'.counterReads socket.id = h.counterReads socket.id + r.newLosses (r.memory h) := by
  unfold acquireRead claim newLosses
  simp only [hd, run_bind, run_get, hs]
  cases isLosing ((r.memory h).status r.cursor) && !r.claimed with
  | true =>
    simp only [if_true, run_bind, run_pure]
    refine ⟨_, rfl, congrArg Rings.mappings (r.reportLoss_keeps h), fun hn => ?_,
      fun socket hk => ?_⟩
    · cases hn
    · exact reportLoss_counterReads hk h
  | false =>
    simp only [Bool.false_eq_true, if_false, run_pure]
    exact ⟨h, rfl, rfl, fun _ => rfl, fun _ _ => rfl⟩

/-- What a call on a ring for receiving does. -/
inductive Receives (r : Ring) (h : Host) (op : Operation) : Prop where
  /-- It claims the slot at the cursor. -/
  | claims {slot : Slot} {h' : Host} (ho : op = .acquireRead)
    (hs : r.readSlot? (r.memory h) = some slot)
    (hrun : (op.run r).run h = ((.ok (.slot (some slot)), r.claim (r.memory h)), h'))
    (hmappings : h'.mappings = h.mappings) (hhost : r.newLosses (r.memory h) = 0 → h' = h)
    (hreads : ∀ socket, r.socket = some socket →
      h'.counterReads socket.id = h.counterReads socket.id + r.newLosses (r.memory h))
  /-- It hands the claimed slot back. -/
  | releases (ho : op = .releaseRead)
    (hrun : (op.run r).run h = ((.ok .done, { r with claimed := false }.advance),
      h.onMemory r.mapping fun m => m.setStatus r.cursor free))
  /-- It changes nothing, whatever it answers. -/
  | nothing {answer : Except LinkError Reply} (hrun : (op.run r).run h = ((answer, r), h))
    (hgiven : Reply.given answer = []) (hreleased : op.released answer = 0)

theorem receive_call (hd : r.direction = .receive) (op : Operation) (h : Host) :
    Receives r h op := by
  cases hr : op.refusal? r with
  | some e => exact .nothing (Operation.run_refused hr h) rfl (op.released_error e)
  | none =>
    cases op with
    | acquireRead =>
      cases hs : r.readSlot? (r.memory h) with
      | some slot =>
        obtain ⟨h', hrun, hm, hhost, hreads⟩ := acquireRead_claim hd hs
        exact .claims rfl hs (by simp only [Operation.run, run_bind, hrun]; rfl) hm hhost hreads
      | none =>
        have hrun : (Operation.acquireRead.run r).run h = ((.ok (.slot none), r), h) := by
          simp only [Operation.run, acquireRead, run_bind, run_get, hd, hs]
          rfl
        exact .nothing hrun rfl rfl
    | payload slot =>
      have hgiven : Reply.given ((r.payload (r.memory h) slot).map .data) = [] := by
        cases r.payload (r.memory h) slot <;> rfl
      exact .nothing rfl hgiven rfl
    | releaseRead =>
      have hc : r.claimed = true := by simpa [Operation.refusal?] using hr
      refine .releases rfl ?_
      simp only [Operation.run, run_bind, releaseRead_run hc]
      rfl
    | acquireWrite => simp [Operation.refusal?, hd] at hr
    | submitWrite slot frame => simp [Operation.refusal?, submitRefusal?, hd] at hr

/-! ## Histories -/

/-- A ring with what it gave out. -/
structure Claiming where
  host : Host
  ring : Ring
  /-- The slots that were given out since a slot was handed back. -/
  given : List Slot := []
  /-- The status words of the slots that were claimed, each as it was at its claim. -/
  words : List Nat := []

namespace Claiming

/-- The memory of the ring. -/
def memory (s : Claiming) : SlotMemory := s.ring.memory s.host

/-- What a call answers, and what it leaves behind. -/
def outcome (s : Claiming) (op : Operation) : (Except LinkError Reply × Ring) × Host :=
  (op.run s.ring).run s.host

/-- The status word of the slot that a call claims. Only the first time that a slot is given out
is a claim. -/
def claimedWord (s : Claiming) (op : Operation) : List Nat :=
  if s.given = [] ∧ Reply.given (s.outcome op).1.1 ≠ [] then [s.memory.status s.ring.cursor]
  else []

/-- The ring after a call. -/
def called (s : Claiming) (op : Operation) : Claiming where
  host := (s.outcome op).2
  ring := (s.outcome op).1.2
  given := if op.released (s.outcome op).1.1 = 0 then s.given ++ Reply.given (s.outcome op).1.1
    else []
  words := s.words ++ s.claimedWord op

/-- A call, or anything that the kernel does, except that it leaves a claimed slot alone. -/
inductive Step : Claiming → Claiming → Prop where
  | call {s : Claiming} (op : Operation) : Step s (s.called op)
  | kernel {s : Claiming} {h : Host}
    (hslot : s.given ≠ [] → (s.ring.memory h).slot s.ring.cursor = s.memory.slot s.ring.cursor)
    (hreads : ∀ socket, s.ring.socket = some socket →
      h.counterReads socket.id = s.host.counterReads socket.id) :
    Step s { s with host := h }

/-- What can be reached from a ring as it is on a host. -/
inductive Reachable (h : Host) (r : Ring) : Claiming → Prop where
  | start : Reachable h r { host := h, ring := r }
  | step {s s' : Claiming} (hs : Reachable h r s) (ht : Step s s') : Reachable h r s'

variable {s s' : Claiming}

theorem called_eq {answer : Except LinkError Reply} {r : Ring} {h : Host}
    (hrun : (op.run s.ring).run s.host = ((answer, r), h)) : s.called op =
      { host := h
        ring := r
        given := if op.released answer = 0 then s.given ++ Reply.given answer else []
        words := s.words ++ s.claimedWord op } := by
  simp only [called, outcome, hrun]

/-- What holds of a ring for receiving and the slots that it gave out. -/
structure Consistent (r₀ : Ring) (h₀ : Host) (s : Claiming) : Prop where
  direction : s.ring.direction = .receive
  socket : s.ring.socket = r₀.socket
  /-- A slot is claimed from the time it is given out until it is handed back. -/
  claimed : s.ring.claimed = true ↔ s.given ≠ []
  /-- What was given out is what would be given out now. -/
  given : ∀ slot ∈ s.given, s.ring.readSlot? s.memory = some slot
  losses : s.ring.lossReports = s.words.countP isLosing
  reads : ∀ socket, r₀.socket = some socket →
    s.host.counterReads socket.id = h₀.counterReads socket.id + s.words.countP isLosing

/-- The losses that a call counts are those of the slot that it claims. -/
theorem Consistent.newLosses_eq (hc : Consistent r₀ h₀ s) {slot : Slot}
    (hg : Reply.given (s.outcome op).1.1 = [slot]) :
    s.ring.newLosses s.memory = (s.claimedWord op).countP isLosing := by
  unfold newLosses claimedWord
  rw [hg]
  by_cases hn : s.given = []
  · have hoff : s.ring.claimed = false := Bool.eq_false_iff.mpr fun h => hc.claimed.mp h hn
    simp [hn, hoff, List.countP_singleton]
  · simp [hn, hc.claimed.mpr hn]

/-- What a call adds to the losses and to the readings of the counters. -/
theorem Consistent.counted (hc : Consistent r₀ h₀ s) (op : Operation) :
    (s.called op).ring.lossReports = s.ring.lossReports + (s.claimedWord op).countP isLosing ∧
      ∀ socket, s.ring.socket = some socket → (s.called op).host.counterReads socket.id =
        s.host.counterReads socket.id + (s.claimedWord op).countP isLosing := by
  have hnone (hg : Reply.given (s.outcome op).1.1 = []) : s.claimedWord op = [] := by
    simp [claimedWord, hg]
  cases receive_call hc.direction op s.host with
  | claims ho hs hrun hm hhost hreads =>
    rw [← hc.newLosses_eq (by rw [outcome, hrun]; rfl), called_eq hrun]
    exact ⟨rfl, hreads⟩
  | releases ho hrun =>
    rw [hnone (by rw [outcome, hrun]; rfl), called_eq hrun]
    exact ⟨rfl, fun socket _ => counterReads_onMemory ..⟩
  | nothing hrun hgiven hreleased =>
    rw [hnone (by rw [outcome, hrun]; exact hgiven), called_eq hrun]
    exact ⟨rfl, fun _ _ => rfl⟩

theorem Consistent.called (hc : Consistent r₀ h₀ s) (op : Operation) :
    Consistent r₀ h₀ (s.called op) := by
  obtain ⟨hlosses, hreads⟩ := hc.counted op
  have htotal : (s.called op).ring.lossReports = (s.called op).words.countP isLosing := by
    rw [hlosses, hc.losses]
    exact (List.countP_append ..).symm
  have hread (socket : PacketSocket) (hk : r₀.socket = some socket) :
      (s.called op).host.counterReads socket.id =
        h₀.counterReads socket.id + (s.called op).words.countP isLosing := by
    rw [hreads socket (hc.socket.trans hk), hc.reads socket hk, Nat.add_assoc]
    exact congrArg _ (List.countP_append ..).symm
  cases receive_call hc.direction op s.host with
  | @claims slot h' ho hs hrun hm =>
    subst ho
    rw [called_eq hrun] at htotal hread ⊢
    refine ⟨hc.direction, hc.socket, ?_, fun slot' hmem => ?_, htotal, hread⟩
    · simp [claim, Operation.released, Reply.given]
    · -- The memory is as before, and so is what it shows at the cursor.
      have hmemory : h'.memoryOf s.ring.mapping = s.memory := memoryOf_congr hm _
      show s.ring.readSlot? (h'.memoryOf s.ring.mapping) = some slot'
      rw [hmemory]
      rcases List.mem_append.mp hmem with hmem | hmem
      · exact hc.given slot' hmem
      · exact List.mem_singleton.mp hmem ▸ hs
  | releases ho hrun =>
    subst ho
    rw [called_eq hrun] at htotal hread ⊢
    refine ⟨hc.direction, hc.socket, ?_, fun slot hmem => ?_, htotal, hread⟩
    · simp [advance, Operation.released]
    · cases hmem
  | nothing hrun hgiven hreleased =>
    rw [called_eq hrun, hgiven, hreleased, if_pos rfl, List.append_nil] at htotal hread ⊢
    exact ⟨hc.direction, hc.socket, hc.claimed, hc.given, htotal, hread⟩

theorem Consistent.step (hc : Consistent r₀ h₀ s) (ht : Step s s') : Consistent r₀ h₀ s' := by
  cases ht with
  | call op => exact hc.called op
  | @kernel h hslot hreads =>
    refine ⟨hc.direction, hc.socket, hc.claimed, fun slot hmem => ?_, hc.losses,
      fun socket hk => ?_⟩
    · exact (readSlot?_congr (hslot (List.ne_nil_of_mem hmem))).trans (hc.given slot hmem)
    · exact (hreads socket (hc.socket.trans hk)).trans (hc.reads socket hk)

theorem Reachable.consistent (hm : Made .receive r₀ h₀) (hs : Reachable h₀ r₀ s) :
    Consistent r₀ h₀ s := by
  induction hs with
  | start =>
    refine ⟨hm.direction, rfl, ?_, ?_, hm.lossReports, fun _ _ => rfl⟩
    · simp [hm.blank.claimed]
    · intro slot hmem
      cases hmem
  | step _ ht ih => exact ih.step ht

/-- Between two releases a slot is claimed once, however often it is asked for. -/
structure ClaimedOnce (r₀ : Ring) (h₀ : Host) (s : Claiming) : Prop where
  /-- All that was given out since the last release is one slot, the one at the cursor. -/
  same : ∀ slot ∈ s.given, slot.index = s.ring.cursor ∧ ∀ slot' ∈ s.given, slot' = slot
  /-- Asking again gives it out again, and changes nothing on the ring or on the host. -/
  again : ∀ slot ∈ s.given,
    s.outcome .acquireRead = ((.ok (.slot (some slot)), s.ring), s.host)
  /-- The cursor stays where it is unless a slot is handed back. -/
  cursor : ∀ op, op.released (s.outcome op).1.1 = 0 →
    (s.called op).ring.cursor = s.ring.cursor
  /-- A call counts one loss if it claims a slot that carries the mark, and else none. -/
  loss : ∀ op, (s.called op).ring.lossReports =
    s.ring.lossReports + (s.claimedWord op).countP isLosing
  /-- The counters of the ring's socket are read with each loss, and with nothing else. -/
  reads : ∀ op socket, r₀.socket = some socket → (s.called op).host.counterReads socket.id =
    s.host.counterReads socket.id + (s.claimedWord op).countP isLosing
  /-- In the end the losses are the claimed slots that carried the mark. -/
  losses : s.ring.lossReports = s.words.countP isLosing
  allReads : ∀ socket, r₀.socket = some socket →
    s.host.counterReads socket.id = h₀.counterReads socket.id + s.words.countP isLosing

theorem Consistent.again (hc : Consistent r₀ h₀ s) {slot : Slot} (hg : slot ∈ s.given) :
    s.outcome .acquireRead = ((.ok (.slot (some slot)), s.ring), s.host) := by
  have hclaimed : s.ring.claimed = true := hc.claimed.mpr (List.ne_nil_of_mem hg)
  obtain ⟨h', hrun, -, hhost, -⟩ := acquireRead_claim hc.direction (hc.given slot hg)
  rw [claim_again hclaimed, hhost (newLosses_claimed hclaimed)] at hrun
  simp only [outcome, Operation.run, run_bind, hrun]
  rfl

theorem Consistent.cursor (hc : Consistent r₀ h₀ s) (op : Operation)
    (hr : op.released (s.outcome op).1.1 = 0) : (s.called op).ring.cursor = s.ring.cursor := by
  cases receive_call hc.direction op s.host with
  | claims ho hs hrun =>
    rw [called_eq hrun]
    rfl
  | releases ho hrun =>
    subst ho
    rw [outcome, hrun] at hr
    cases hr
  | nothing hrun => rw [called_eq hrun]

/-- However a ring for receiving was made and used, as long as the kernel leaves claimed slots
alone, claiming again changes nothing and losses are counted once. -/
theorem claimed_once (hm : Made .receive r₀ h₀) (hs : Reachable h₀ r₀ s) :
    ClaimedOnce r₀ h₀ s := by
  have hc := hs.consistent hm
  refine ⟨fun slot hg => ⟨?_, fun slot' hg' => ?_⟩, fun _ => hc.again, hc.cursor,
    fun op => (hc.counted op).1, fun op socket hk => ?_, hc.losses, hc.reads⟩
  · exact (readSlot?_eq_some (hc.given slot hg)).2.1
  · exact Option.some.inj ((hc.given slot' hg').symm.trans (hc.given slot hg))
  · exact (hc.counted op).2 socket (hc.socket.trans hk)

/-- The counters cannot be read. -/
def unreadable : Script := { pageSize := 128, failures := [(.getOption, [5])] }

/-- A frame with the mark of lost frames is claimed twice and handed back once. -/
theorem claimed_once_unreadable : ∃ s : Claiming,
    s.Reachable (madeHost .receive unreadable) (pair .receive (some ⟨⟨0⟩⟩)) ∧
    ClaimedOnce (pair .receive (some ⟨⟨0⟩⟩)) (madeHost .receive unreadable) s ∧
    s.ring.cursor = 1 ∧ s.words = [5] ∧ s.ring.lossReports = 1 ∧
      s.host.counterReads ⟨0⟩ = 1 := by
  have hm : Made .receive (pair .receive (some ⟨⟨0⟩⟩)) (madeHost .receive unreadable) :=
    pair_made rfl
  have h₀ := @Reachable.start (madeHost .receive unreadable) (pair .receive (some ⟨⟨0⟩⟩))
  have h₁ := h₀.step (@Step.kernel _ ((madeHost .receive unreadable).onMemory ⟨0⟩
    (·.deliver 0 { Delivery.whole [1, 2, 3] with flags := 4 }))
    (fun hg => absurd rfl hg) fun _ _ => counterReads_onMemory ..)
  have h₄ := ((h₁.step (.call .acquireRead)).step (.call .acquireRead)).step (.call .releaseRead)
  exact ⟨_, h₄, claimed_once hm h₄, by decide +kernel, by decide +kernel, by decide +kernel,
    by decide +kernel⟩

end Claiming

end Ring

end PacketLink
