import PacketLink.Config.Session

/-!
# What checked settings have passed

* `Passed pageSize c s`: every setting in `s` is what the check of that setting makes of `c`. The
  settings of a session are those that have passed (`validate_eq_ok_iff`).
* `Passed.payload_le`: the payload is within the limit for the role, and `Passed.room` is what that
  means for a transmitter with rings: the whole frame has room in a slot of a page.
-/

namespace PacketLink

/-- A computation goes well exactly if its first step does and then the rest. -/
theorem Except.bind_eq_ok_iff {ε α β : Type} {x : Except ε α} {f : α → Except ε β} {b : β} :
    (x >>= f) = .ok b ↔ ∃ a, x = .ok a ∧ f a = .ok b := by
  constructor
  · intro h
    cases x with
    | error e => cases h
    | ok a => exact ⟨a, rfl, h⟩
  · rintro ⟨a, rfl, h⟩
    exact h

namespace Config

/-- Every setting in `s` is what the check of that setting makes of `c`. -/
structure Passed (pageSize : Nat) (c : Config) (s : SessionConfig) : Prop where
  role : c.role = .ok s.role
  delay : c.delay s.role = .ok s.txDelay
  sap : c.sap = .ok s.linkSap
  interface : ∃ name, c.interfaceName = .ok name ∧ s.interface = truncateName name
  kind : c.kind = .ok s.kind
  frames : c.frames = .ok s.ringFrames
  payload : c.payload pageSize s.role s.kind s.ringFrames = .ok s.payloadLength

variable {pageSize : Nat} {c : Config} {s : SessionConfig}

/-- The check gives the settings that have passed. -/
theorem validate_eq_ok_iff : c.validate pageSize = .ok s ↔ Passed pageSize c s := by
  simp only [validate, Except.bind_eq_ok_iff]
  constructor
  · rintro ⟨role, hrole, delay, hdelay, sap, hsap, name, hname, kind, hkind, frames, hframes,
      payload, hpayload, hs⟩
    cases hs
    exact ⟨hrole, hdelay, hsap, ⟨name, hname, rfl⟩, hkind, hframes, hpayload⟩
  · rintro ⟨hrole, hdelay, hsap, ⟨name, hname, hinterface⟩, hkind, hframes, hpayload⟩
    refine ⟨_, hrole, _, hdelay, _, hsap, _, hname, _, hkind, _, hframes, _, hpayload, ?_⟩
    rw [← hinterface]
    rfl

theorem payload_le_limit {role : Role} {kind : FrameKind} {frames : Option Nat} {n : Nat}
    (h : c.payload pageSize role kind frames = .ok n) :
    n ≤ payloadLimit pageSize role kind frames := by
  unfold payload at h
  dsimp only at h
  split at h
  · split at h
    · cases h
    · split at h
      · cases h
      · cases h
        omega
  · split at h
    · cases h
    · cases h
      omega

theorem payloadLimit_le (pageSize : Nat) (role : Role) (kind : FrameKind) (frames : Option Nat) :
    payloadLimit pageSize role kind frames ≤ kind.maxPayload := by
  unfold payloadLimit
  split
  · exact Nat.min_le_left ..
  · exact Nat.le_refl _

theorem Passed.payload_le (h : Passed pageSize c s) : s.payloadLength ≤ s.kind.maxPayload :=
  Nat.le_trans (payload_le_limit h.payload) (payloadLimit_le ..)

theorem isFrameCount_of_frames {n : Nat} (h : c.frames = .ok (some n)) :
    Ring.isFrameCount n = true := by
  unfold frames at h
  dsimp only at h
  split at h
  · split at h
    · rename_i hcount
      cases h
      exact hcount
    · cases h
  · cases h

/-- A slot has room for a header. -/
theorem headerLength_le_sendCapacity (hp : 4096 ≤ pageSize) (kind : FrameKind) :
    kind.headerLength ≤ Ring.sendCapacity pageSize := by
  unfold Ring.sendCapacity SlotMemory.sendOffset
  cases kind <;> simp only [FrameKind.headerLength] <;> omega

/-- Where frames are sent through rings, the whole frame has room in a slot. -/
theorem Passed.room (h : Passed pageSize c s) (hp : 4096 ≤ pageSize) (hr : s.role = .transmitter)
    {n : Nat} (hn : s.ringFrames = some n) :
    s.kind.headerLength + s.payloadLength ≤ Ring.sendCapacity pageSize := by
  have hle := payload_le_limit h.payload
  have hheader := headerLength_le_sendCapacity hp s.kind
  rw [hr, hn] at hle
  simp only [payloadLimit] at hle
  omega

end Config

end PacketLink
