import PacketLink.Host.Calls
import PacketLink.Proofs.Computation
import PacketLink.Proofs.Host.Slots

/-!
# Rings on the kernel's side

* `Host.rings`: all that a ring can tell of the kernel: its script, the mappings, and the frames
  that left. A call that the kernel answers without touching a ring keeps it (`attempt_keeps`).
* `attempt_trace`: a call whose effect records nothing is on record once, with its outcome.
* `probe_false`: a poll finds nothing to do only where the descriptor is not ready.
* `onMemory` and `memoryOf_onMemory`: writing into the memory of one mapping.
* `takeNext`: the kernel takes the frame at its cursor. All that `transmitFrom` does is to take one
  frame after the other (`transmitFrom_induction`), so what one frame keeps, a flush keeps
  (`flush_induction`, and `flush_induction_called` for what asking the kernel changes already).
-/

namespace PacketLink

variable {α β γ : Type}

open Host in
/-- What counting a call, its record and its effect each leave as it was, the call does. -/
theorem Keeps.attempt {part : Host → γ} {c : Call} {event : Outcome α → Event}
    {effect : Sys (Outcome α)} (hc : Keeps part (enter c))
    (he : ∀ outcome, Keeps part (record (event outcome))) (hx : Keeps part effect) :
    Keeps part (attempt c event effect) := by
  have hlast (outcome : Outcome α) : Keeps part (do record (event outcome); Pure.pure outcome) :=
    (he outcome).bind fun _ => .pure _
  refine hc.bind fun code => ?_
  split
  · exact (Keeps.pure _).bind hlast
  · exact hx.bind hlast

namespace Host

/-! ## What a ring can tell -/

/-- A frame that left through a ring, if the event is that one did. -/
def Event.sentFrame? : Event → Option Bytes
  | .transmit _ _ frame => some frame
  | _ => none

/-- The frames that left through rings, in order. -/
def sentFrames (h : Host) : List Bytes := h.trace.reverse.filterMap Event.sentFrame?

/-- What a ring can tell of the kernel. -/
structure Rings where
  script : Script
  mappings : Array Mapping
  ringFrames : Nat
  sentFrames : List Bytes

/-- What a ring can tell of this kernel. -/
def rings (h : Host) : Rings := ⟨h.script, h.mappings, h.ringFrames, h.sentFrames⟩

theorem enter_keeps (c : Call) : Keeps rings (enter c) := fun _ => rfl

theorem report_keeps (e : Log.Entry) : Keeps rings (report e) := fun _ => rfl

theorem record_keeps {e : Event} (he : e.sentFrame? = none) : Keeps rings (record e) := by
  refine Keeps.modify fun h => ?_
  simp [rings, sentFrames, he]

theorem attempt_keeps {c : Call} {event : Outcome α → Event} {effect : Sys (Outcome α)}
    (hv : ∀ outcome, (event outcome).sentFrame? = none) (hx : Keeps rings effect) :
    Keeps rings (attempt c event effect) :=
  .attempt (enter_keeps c) (fun outcome => record_keeps (hv outcome)) hx

/-- A call of which the effect puts nothing on record is on record once, with its outcome. -/
theorem attempt_trace {c : Call} {event : Outcome α → Event} {effect : Sys (Outcome α)}
    (hx : Keeps Host.trace effect) (h : Host) :
    ((attempt c event effect).run h).2.trace =
      event ((attempt c event effect).run h).1 :: h.trace := by
  unfold attempt
  simp only [run_bind]
  split
  · rfl
  · exact congrArg (_ :: ·) (hx ((enter c).run h).2)

/-- A call that succeeds has had its effect, and is on record. -/
theorem attempt_ok {c : Call} {event : Outcome α → Event} {effect : Sys (Outcome α)} {a : α}
    {h h' : Host} (hr : (attempt c event effect).run h = (.ok a, h')) :
    ∃ h₁, effect.run ((enter c).run h).2 = (.ok a, h₁) ∧
      h' = ((record (event (.ok a))).run h₁).2 := by
  rw [attempt, run_bind] at hr
  by_cases hcode : 0 < ((enter c).run h).1
  · simp only [hcode, if_true, run_bind, run_pure] at hr
    cases (Prod.mk.inj hr).1
  · simp only [hcode, if_false, run_bind, run_pure] at hr
    generalize effect.run ((enter c).run h).2 = done at hr ⊢
    obtain ⟨outcome, h₁⟩ := done
    obtain ⟨rfl, rfl⟩ := Prod.mk.inj hr
    exact ⟨h₁, rfl, rfl⟩

theorem plainCall_keeps {c : Call} {event : Outcome Unit → Event}
    (hv : ∀ outcome, (event outcome).sentFrame? = none) : Keeps rings (plainCall c event) :=
  attempt_keeps hv (Keeps.pure _)

theorem readStatistics_keeps (s : SocketId) : Keeps rings (readStatistics s) :=
  attempt_keeps (fun _ => rfl) (Keeps.get.bind fun _ => Keeps.pure _)

theorem sendTo_keeps (s : SocketId) (frame : Bytes) (address : LinkAddress) :
    Keeps rings (sendTo s frame address) :=
  Keeps.get.bind fun _ => attempt_keeps (fun _ => rfl) (Keeps.get.bind fun _ => Keeps.pure _)

theorem setOption_keeps (s : SocketId) (option : Nat) (value : Bytes) :
    Keeps rings (setOption s option value) := plainCall_keeps fun _ => rfl

/-- Mapping slots that succeeds adds one mapping, with zeroed slots of a page each. -/
theorem map_ok {owner : Option SocketId} {d : RingDirection} {count : Nat} {id : MappingId}
    {h h' : Host} (hr : (map owner d count).run h = (.ok id, h')) :
    id = ⟨h.mappings.size⟩ ∧ h'.script = h.script ∧
      h'.mappings = h.mappings.push
        { owner, direction := d, memory := .zeroed count h.pageSize, active := true,
          nextSend := 0 } := by
  rw [map, run_bind, run_get] at hr
  obtain ⟨h₁, he, rfl⟩ := attempt_ok hr
  by_cases hl : h.script.isTooLarge (h.pageSize * count) = true
  · rw [if_pos hl] at he
    cases (Prod.mk.inj he).1
  · rw [if_neg hl] at he
    cases he
    exact ⟨rfl, rfl, rfl⟩

/-- Whatever the system reports, a page has room for something. -/
theorem pageSize_pos (h : Host) : 0 < h.pageSize := by
  unfold pageSize
  split <;> omega

theorem pageSize_congr {h h' : Host} (hs : h'.script = h.script) : h'.pageSize = h.pageSize := by
  rw [pageSize, pageSize, hs]

/-- Whatever a probe answers, it only counts as a call. -/
theorem probe_run_snd (level : Host → Bool) (h : Host) :
    ((probe level).run h).2 = ((enter .poll).run h).2 := by
  rw [probe, run_bind]
  split
  · rfl
  · split
    · rfl
    · split <;> rfl

/-- A probe finds nothing to do only at a descriptor that is not ready. -/
theorem probe_false {level : Host → Bool} {h h' : Host}
    (hrun : (probe level).run h = (.ok false, h')) : level h' = false := by
  rw [probe, run_bind] at hrun
  generalize (enter .poll).run h = entered at hrun
  obtain ⟨code, h₁⟩ := entered
  by_cases hz : code = 0
  · simp only [hz, if_true, run_bind, run_get, run_pure] at hrun
    obtain ⟨hlevel, rfl⟩ := Prod.mk.inj hrun
    exact Except.ok.inj hlevel
  · simp only [hz, if_false] at hrun
    by_cases hpos : 0 < code
    · simp only [hpos, if_true, run_pure] at hrun
      by_cases hint : (⟨code.toNat⟩ : Errno) = .interrupted
      · rw [if_pos hint] at hrun
        cases (Prod.mk.inj hrun).1
      · rw [if_neg hint] at hrun
        cases (Prod.mk.inj hrun).1
    · simp only [hpos, if_false] at hrun
      by_cases hbad : (-code).toNat.testBit invalidEvent = true
      · rw [if_pos hbad] at hrun
        cases (Prod.mk.inj hrun).1
      · rw [if_neg hbad] at hrun
        cases (Prod.mk.inj hrun).1

/-! ## The memory of a mapping -/

/-- The host with the memory of one mapping changed. -/
def onMemory (id : MappingId) (change : SlotMemory → SlotMemory) (h : Host) : Host :=
  { h with
    mappings := h.mappings.modify id.number fun k => { k with memory := change k.memory } }

theorem updateMemory_run (id : MappingId) (change : SlotMemory → SlotMemory) (h : Host) :
    (updateMemory id change).run h = ((), h.onMemory id change) := rfl

variable {h h' : Host} {id : MappingId}

theorem memoryOf_congr (hm : h'.mappings = h.mappings) (id : MappingId) :
    h'.memoryOf id = h.memoryOf id := by
  simp only [memoryOf, hm]

theorem memoryOf_eq {k : Mapping} (hk : h.mappings[id.number]? = some k) :
    h.memoryOf id = k.memory := by
  simp only [memoryOf, hk]

/-- Only a mapping that exists has slots. -/
theorem exists_mapping (hc : 0 < (h.memoryOf id).count) :
    ∃ k, h.mappings[id.number]? = some k := by
  unfold memoryOf at hc
  cases hk : h.mappings[id.number]? with
  | some k => exact ⟨k, rfl⟩
  | none =>
    rw [hk] at hc
    cases hc

theorem mapping_onMemory {k : Mapping} (hk : h.mappings[id.number]? = some k)
    (change : SlotMemory → SlotMemory) :
    (h.onMemory id change).mappings[id.number]? = some { k with memory := change k.memory } := by
  simp [onMemory, Array.getElem?_modify, hk]

theorem memoryOf_onMemory {k : Mapping} (hk : h.mappings[id.number]? = some k)
    (change : SlotMemory → SlotMemory) :
    (h.onMemory id change).memoryOf id = change (h.memoryOf id) := by
  rw [memoryOf_eq (mapping_onMemory hk change), memoryOf_eq hk]

/-- Other mappings keep their memory. -/
theorem memoryOf_onMemory_of_ne {id' : MappingId} (hne : id' ≠ id)
    (change : SlotMemory → SlotMemory) (h : Host) :
    (h.onMemory id change).memoryOf id' = h.memoryOf id' := by
  have hn : id.number ≠ id'.number := by
    intro he
    cases id
    cases id'
    exact hne (congrArg _ he.symm)
  simp only [memoryOf, onMemory, Array.getElem?_modify, if_neg hn]

theorem mappings_onMemory (h : Host) (id : MappingId) (change : SlotMemory → SlotMemory) :
    (h.onMemory id change).mappings = h.mappings.modify id.number fun k =>
      { k with memory := change k.memory } := rfl

/-- Whose mappings are in use for what does not depend on the memory in them. -/
theorem activeMapping?_modify (change : Mapping → Mapping)
    (hc : ∀ k, (change k).active = k.active ∧ (change k).owner = k.owner ∧
      (change k).direction = k.direction)
    (hm : h'.mappings = h.mappings.modify id.number change) (s : SocketId) (d : RingDirection) :
    h'.activeMapping? s d = h.activeMapping? s d := by
  let use (k : Mapping) := (k.active, k.owner, k.direction)
  have huse : h'.mappings.map use = h.mappings.map use := by
    rw [hm]
    apply Array.ext
    · simp
    · intro i _ hi
      have hi' : i < h.mappings.size := by simpa using hi
      simp only [Array.getElem_map, Array.getElem_modify]
      split
      · obtain ⟨ha, ho, hd⟩ := hc h.mappings[i]
        simp only [use, ha, ho, hd]
      · rfl
  have hfind (g : Host) : g.activeMapping? s d = ((g.mappings.map use).findIdx? fun u =>
      u.1 && u.2.1 = some s && u.2.2 = d).map MappingId.mk := by
    rw [activeMapping?, Array.findIdx?_map]
    rfl
  rw [hfind h', hfind h, huse]

theorem activeMapping?_onMemory (id : MappingId) (change : SlotMemory → SlotMemory) (h : Host)
    (s : SocketId) (d : RingDirection) :
    (h.onMemory id change).activeMapping? s d = h.activeMapping? s d :=
  activeMapping?_modify (fun k => { k with memory := change k.memory })
    (fun _ => ⟨rfl, rfl, rfl⟩) (h.mappings_onMemory id change) s d

/-! ## Taking frames from a ring -/

/-- The status word that the kernel leaves behind with the `n`-th frame that it takes. -/
def Script.left (script : Script) (n : Nat) : Nat := script.sentStatus.getD n SlotMemory.free

/-- The mapping after the kernel has taken the frame in `slot` and left `word` behind. -/
def Mapping.took (k : Mapping) (slot count word : Nat) : Mapping :=
  { k with memory := k.memory.setStatus slot word, nextSend := (slot + 1) % count }

/-- The host after the kernel has taken the frame at its cursor from a mapping. -/
def takeNext (s : SocketId) (id : MappingId) (k : Mapping) (h : Host) : Host :=
  { h with
    ringFrames := h.ringFrames + 1
    trace := .transmit s k.nextSend (k.memory.queued k.nextSend) :: h.trace
    mappings := h.mappings.modify id.number fun k' =>
      k'.took k.nextSend k.memory.count (h.script.left h.ringFrames) }

theorem mappings_takeNext (s : SocketId) (id : MappingId) (k : Mapping) (h : Host) :
    (h.takeNext s id k).mappings = h.mappings.modify id.number fun k' =>
      k'.took k.nextSend k.memory.count (h.script.left h.ringFrames) := rfl

theorem sentFrames_takeNext (s : SocketId) (id : MappingId) (k : Mapping) (h : Host) :
    (h.takeNext s id k).sentFrames = h.sentFrames ++ [k.memory.queued k.nextSend] := by
  simp [takeNext, sentFrames, Event.sentFrame?]

theorem mapping_takeNext (s : SocketId) {k : Mapping} (hk : h.mappings[id.number]? = some k) :
    (h.takeNext s id k).mappings[id.number]? =
      some (k.took k.nextSend k.memory.count (h.script.left h.ringFrames)) := by
  simp [takeNext, Array.getElem?_modify, hk]

theorem activeMapping?_takeNext (s : SocketId) (id : MappingId) (k : Mapping) (h : Host)
    (s' : SocketId) (d : RingDirection) :
    (h.takeNext s id k).activeMapping? s' d = h.activeMapping? s' d :=
  activeMapping?_modify
    (fun k' => k'.took k.nextSend k.memory.count (h.script.left h.ringFrames))
    (fun _ => ⟨rfl, rfl, rfl⟩) (h.mappings_takeNext s id k) s' d

theorem transmitFrom_succ (s : SocketId) (id : MappingId) (n : Nat) (h : Host) {k : Mapping}
    (hk : h.mappings[id.number]? = some k)
    (hs : SlotMemory.isSendRequest (k.memory.status k.nextSend)) :
    (transmitFrom s id (n + 1)).run h =
      if SlotMemory.isSendRequest (h.script.left h.ringFrames) then ((), h.takeNext s id k)
      else (transmitFrom s id n).run (h.takeNext s id k) := by
  rw [transmitFrom]
  simp only [run_bind, run_get, hk, hs, if_true]
  simp only [record, updateMapping, run_modify]
  by_cases hl : SlotMemory.isSendRequest (h.script.left h.ringFrames)
  · rw [if_pos hl]
    simp only [Script.left] at hl
    simp only [hl, if_true, run_pure]
    rfl
  · rw [if_neg hl]
    simp only [Script.left] at hl
    simp only [hl]
    rfl

/-- The kernel takes nothing from a mapping that does not exist, or at a slot that it is not asked
to send. -/
theorem transmitFrom_of_not (s : SocketId) (id : MappingId) (n : Nat) (h : Host)
    (hs : ∀ k, h.mappings[id.number]? = some k →
      ¬ SlotMemory.isSendRequest (k.memory.status k.nextSend)) :
    (transmitFrom s id n).run h = ((), h) := by
  cases n with
  | zero => rfl
  | succ n =>
    rw [transmitFrom]
    cases hk : h.mappings[id.number]? with
    | none => simp only [run_bind, run_get, hk, run_pure]
    | some k =>
      have hoff := Bool.eq_false_iff.mpr (hs k hk)
      simp only [run_bind, run_get, hk, hoff, Bool.false_eq_true, if_false, run_pure]

/-- What holds before a flush takes frames and is kept by each of them holds after it. -/
theorem transmitFrom_induction {P : Host → Prop} (s : SocketId) (id : MappingId)
    (step : ∀ h k, P h → h.mappings[id.number]? = some k →
      SlotMemory.isSendRequest (k.memory.status k.nextSend) → P (h.takeNext s id k))
    (n : Nat) (h : Host) (hp : P h) : P ((transmitFrom s id n).run h).2 := by
  induction n generalizing h with
  | zero => exact hp
  | succ n ih =>
    by_cases hs : ∃ k, h.mappings[id.number]? = some k ∧
        SlotMemory.isSendRequest (k.memory.status k.nextSend)
    · obtain ⟨k, hk, hs⟩ := hs
      rw [transmitFrom_succ s id n h hk hs]
      split
      · exact step h k hp hk hs
      · exact ih _ (step h k hp hk hs)
    · rw [transmitFrom_of_not s id (n + 1) h fun k hk hk' => hs ⟨k, hk, hk'⟩]
      exact hp

/-- A notice that fails has no effect on a ring. -/
theorem flush_error {s : SocketId} {h : Host} {e : Errno} (he : ((flush s).run h).1 = .error e) :
    ((flush s).run h).2.rings = h.rings := by
  have hc : Keeps rings (plainCall .send (.flush s)) := plainCall_keeps fun _ => rfl
  have hrings := hc h
  rw [flush, run_bind] at he ⊢
  generalize (plainCall .send (.flush s)).run h = called at hrings he ⊢
  obtain ⟨outcome, h₁⟩ := called
  cases outcome with
  | error e' => exact hrings
  | ok =>
    simp only [run_bind, run_get] at he
    cases hid : h₁.activeMapping? s .send with
    | none =>
      simp only [hid, run_pure] at he
      cases he
    | some id =>
      simp only [hid, run_bind, run_pure] at he
      cases he

/-- What holds once the kernel was asked to send, and is kept by every frame that it takes from the
mapping in use of the socket, holds when it is done. -/
theorem flush_induction_called {P : Host → Prop} {s : SocketId}
    (step : ∀ h id k, h.activeMapping? s .send = some id → P h → h.mappings[id.number]? = some k →
      SlotMemory.isSendRequest (k.memory.status k.nextSend) → P (h.takeNext s id k))
    (h : Host) (hp : P ((plainCall .send (.flush s)).run h).2) : P ((flush s).run h).2 := by
  rw [flush, run_bind]
  generalize (plainCall .send (.flush s)).run h = called at hp ⊢
  obtain ⟨outcome, h⟩ := called
  cases outcome with
  | error e => exact hp
  | ok =>
    simp only [run_bind, run_get]
    cases hid : h.activeMapping? s .send with
    | none => exact hp
    | some id =>
      -- The mapping in use stays the same while frames are taken from it.
      have hq := transmitFrom_induction s id
        (P := fun h => P h ∧ h.activeMapping? s .send = some id)
        (fun h k hp hk hs => ⟨step h id k hp.2 hp.1 hk hs,
          (activeMapping?_takeNext s id k h s .send).trans hp.2⟩)
        (h.memoryOf id).count h ⟨hp, hid⟩
      exact hq.1

/-- What depends on rings only and is kept by every frame that the kernel takes from the mapping in
use of a socket is kept when the kernel is asked to send. -/
theorem flush_induction {P : Host → Prop} {s : SocketId}
    (same : ∀ h h', h'.rings = h.rings → P h → P h')
    (step : ∀ h id k, h.activeMapping? s .send = some id → P h → h.mappings[id.number]? = some k →
      SlotMemory.isSendRequest (k.memory.status k.nextSend) → P (h.takeNext s id k))
    (h : Host) (hp : P h) : P ((flush s).run h).2 := by
  have hc : Keeps rings (plainCall .send (.flush s)) := plainCall_keeps fun _ => rfl
  exact flush_induction_called step h (same _ _ (hc h) hp)

end Host

end PacketLink
