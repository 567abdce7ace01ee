import PacketLink.Config.Session

/-!
# When settings are usable

* `Config.Condition`: what is asked of settings, with the error of those that do not meet it.
* `Config.conditions`: everything that is asked, in the order in which it is looked at.
* `Config.firstOffence`: the error of the first condition that is not met.
* `Config.Judges qs c x`: a computation that goes well if `c` meets the conditions `qs`, and
  otherwise fails with the first offence. There is one lemma for each check, and `Judges.bind` puts
  them together.
* `Config.validate_by_conditions`: checking settings comes down to the conditions, and settings that
  are not asked for do not matter.
-/

namespace PacketLink.Config

/-- What is asked of settings, and what is said of those that do not meet it. -/
structure Condition where
  Met : Config → Prop
  offence : Config → ConfigError
  decidable : DecidablePred Met := by infer_instance

instance (q : Condition) : DecidablePred q.Met := q.decidable

/-- The error of the first condition that is not met. -/
def firstOffence (c : Config) : List Condition → Option ConfigError
  | [] => none
  | q :: rest => if q.Met c then firstOffence c rest else some (q.offence c)

theorem firstOffence_append (c : Config) (qs rest : List Condition) :
    firstOffence c (qs ++ rest) = (firstOffence c qs).or (firstOffence c rest) := by
  induction qs with
  | nil => rfl
  | cons q qs ih =>
    by_cases hq : q.Met c
    · simp only [List.cons_append, firstOffence, if_pos hq, ih]
    · simp [firstOffence, hq]

theorem firstOffence_eq_none_iff (c : Config) (qs : List Condition) :
    firstOffence c qs = none ↔ ∀ q ∈ qs, q.Met c := by
  induction qs with
  | nil => simp [firstOffence]
  | cons q qs ih =>
    by_cases hq : q.Met c
    · simp [firstOffence, hq, ih]
    · simp [firstOffence, hq]

/-! ## What is asked -/

/-- A mode is set. -/
def modeIsSet : Condition where
  Met c := c.mode ≠ none
  offence _ := .missingMode

/-- A transmitter has a pause of 1 to 1000 milliseconds. -/
def delayIsInRange : Condition where
  Met c := c.mode = some .transmit → ∃ ms ∈ c.txDelay, 1 ≤ ms ∧ ms ≤ 1000
  offence c := c.txDelay.elim (.missing "tx_delay_ms") .txDelay

/-- There is a protocol of sixteen bits, and it is not zero. -/
def sapIsInRange : Condition where
  Met c := ∃ n ∈ c.linkSap, 1 ≤ n ∧ n ≤ 0xFFFF
  offence c := c.linkSap.elim (.missing "link_sap") .linkSap

/-- There is an interface, and its name is not empty. -/
def interfaceIsNamed : Condition where
  Met c := ∃ name ∈ c.interface, name ≠ ""
  offence c := c.interface.elim (.missing "interface") fun _ => .emptyInterface

/-- A kind of frames is set. -/
def frameIsSet : Condition where
  Met c := c.frame ≠ none
  offence _ := .missing "frame"

/-- The number of slots that rings would have. -/
def askedFrames (c : Config) : Nat := c.ringFrames.getD 128

/-- Where there are rings, the number of their slots is a power of two and not one. -/
def ringIsSized : Condition where
  Met c := c.ring = some true → 2 ≤ c.askedFrames ∧ c.askedFrames.isPowerOfTwo
  offence c := .ringFrames c.askedFrames

/-- Whether raw frames are sent. -/
def SendsRaw (c : Config) : Prop := c.mode = some .transmit ∧ c.frame = some .raw

instance : DecidablePred SendsRaw := fun _ => inferInstanceAs (Decidable (_ ∧ _))

/-- The payload of a frame: a raw frame has room for a header unless something else is said. -/
def askedPayload (c : Config) : Nat := c.payloadLength.getD (if c.SendsRaw then 14 else 10)

/-- A raw frame that is sent is not shorter than a header. -/
def payloadIsEnough : Condition where
  Met c := c.SendsRaw → 14 ≤ c.askedPayload
  offence c := .payloadTooShort 14 c.askedPayload

/-- The longest payload of a kind: what is sent through a ring has to fit into a slot, with its
header. -/
def roomFor (pageSize : Nat) (c : Config) (kind : FrameKind) : Nat :=
  if c.mode = some .transmit ∧ c.ring = some true then
    min kind.maxPayload (Ring.sendCapacity pageSize - kind.headerLength)
  else kind.maxPayload

/-- The payload is not longer than that. Where no kind is set, which is an offence of its own, the
kind that is named does not matter. -/
def payloadFits (pageSize : Nat) : Condition where
  Met c := ∀ kind ∈ c.frame, c.askedPayload ≤ c.roomFor pageSize kind
  offence c :=
    let kind := c.frame.getD .raw
    .payloadTooLarge kind (c.roomFor pageSize kind) c.askedPayload

/-- Everything that is asked, in order. -/
def conditions (pageSize : Nat) : List Condition :=
  [modeIsSet, delayIsInRange, sapIsInRange, interfaceIsNamed, frameIsSet, ringIsSized,
    payloadIsEnough, payloadFits pageSize]

/-! ## Checking -/

variable {α β : Type} {c : Config} {qs rest : List Condition} {q : Condition}

/-- A computation that goes well if the conditions are met, and otherwise fails with the first
offence. -/
def Judges (qs : List Condition) (c : Config) (x : Except ConfigError α) : Prop :=
  match firstOffence c qs with
  | none => ∃ a, x = .ok a
  | some e => x = .error e

theorem Judges.nil {x : Except ConfigError α} (hx : ∃ a, x = .ok a) : Judges [] c x := hx

/-- A condition is looked at before the others. -/
theorem Judges.cons {x : Except ConfigError α} (hmet : q.Met c → Judges rest c x)
    (hnot : ¬ q.Met c → x = .error (q.offence c)) : Judges (q :: rest) c x := by
  by_cases hq : q.Met c
  · simpa [Judges, firstOffence, hq] using hmet hq
  · simpa [Judges, firstOffence, hq] using hnot hq

theorem Judges.ok {x : Except ConfigError α} (h : q.Met c) (hx : ∃ a, x = .ok a) :
    Judges [q] c x := .cons (fun _ => .nil hx) (absurd h)

theorem Judges.error {x : Except ConfigError α} (h : ¬ q.Met c) (hx : x = .error (q.offence c)) :
    Judges [q] c x := .cons (fun hq => absurd hq h) fun _ => hx

/-- The second of two checks may use what the first one gives. -/
theorem Judges.bind {x : Except ConfigError α} {f : α → Except ConfigError β}
    (hx : Judges qs c x) (hf : ∀ a, x = .ok a → Judges rest c (f a)) :
    Judges (qs ++ rest) c (x >>= f) := by
  unfold Judges at *
  rw [firstOffence_append]
  cases hfirst : firstOffence c qs with
  | none =>
    rw [hfirst] at hx
    obtain ⟨a, rfl⟩ := hx
    exact hf a rfl
  | some e =>
    rw [hfirst] at hx
    obtain rfl := hx
    rfl

theorem Judges.map {x : Except ConfigError α} (hx : Judges qs c x) (f : α → β) :
    Judges qs c (x >>= fun a => pure (f a)) := by
  have hboth := hx.bind (f := fun a => pure (f a)) fun a _ => Judges.nil ⟨f a, rfl⟩
  rwa [List.append_nil] at hboth

/-- A check goes well exactly if all conditions are met. -/
theorem Judges.exists_ok_iff {x : Except ConfigError α} (hx : Judges qs c x) :
    (∃ a, x = .ok a) ↔ ∀ q ∈ qs, q.Met c := by
  rw [← firstOffence_eq_none_iff]
  unfold Judges at hx
  cases hfirst : firstOffence c qs with
  | none => simpa [hfirst] using hx
  | some e => simp_all

/-- A check fails with the first offence. -/
theorem Judges.eq_error_iff {x : Except ConfigError α} (hx : Judges qs c x) (e : ConfigError) :
    x = .error e ↔ firstOffence c qs = some e := by
  unfold Judges at hx
  cases hfirst : firstOffence c qs with
  | none =>
    rw [hfirst] at hx
    obtain ⟨a, rfl⟩ := hx
    simp
  | some e' => simp_all

/-! ## The checks, one by one -/

/-- The role tells the mode. -/
theorem role_eq_ok_iff {role : Role} :
    c.role = .ok role ↔ c.mode = some (match role with
      | .transmitter => .transmit
      | .receiver => .receive) := by
  unfold Config.role
  cases c.mode with
  | none => simp
  | some mode => cases mode <;> cases role <;> simp

theorem kind_eq_ok_iff {kind : FrameKind} : c.kind = .ok kind ↔ c.frame = some kind := by
  unfold Config.kind
  cases c.frame <;> simp

/-- Without rings there is no number of slots, whatever is set. -/
theorem frames_of_not (h : c.ring ≠ some true) : c.frames = .ok none := by
  have hoff : c.ring.getD false = false := by
    cases hr : c.ring with
    | none => rfl
    | some b => simpa [hr] using h
  simp [frames, hoff]

/-- There is a number of slots exactly if rings are asked for. -/
theorem isSome_of_frames {slots : Option Nat} (h : c.frames = .ok slots) :
    slots.isSome = true ↔ c.ring = some true := by
  by_cases hring : c.ring = some true
  · simp only [frames, hring, Option.getD_some, if_true] at h
    split at h <;> cases h
    simp [hring]
  · cases (frames_of_not hring).symm.trans h
    simp [hring]

theorem judges_role (c : Config) : Judges [modeIsSet] c c.role := by
  cases hm : c.mode with
  | none => exact .error (by simp [modeIsSet, hm]) (by simp [Config.role, modeIsSet, hm])
  | some mode =>
    refine .ok (by simp [modeIsSet, hm]) ?_
    cases mode <;> simp [Config.role, hm]

theorem judges_delay {role : Role} (hrole : c.role = .ok role) :
    Judges [delayIsInRange] c (c.delay role) := by
  rw [role_eq_ok_iff] at hrole
  cases role with
  | receiver => exact .ok (by simp [delayIsInRange, hrole]) ⟨0, rfl⟩
  | transmitter =>
    cases hd : c.txDelay with
    | none =>
      exact .error (by simp [delayIsInRange, hrole, hd]) (by simp [delay, delayIsInRange, hd])
    | some ms =>
      by_cases hms : 1 ≤ ms ∧ ms ≤ maxTxDelay
      · exact .ok (fun _ => ⟨ms, hd, hms⟩) ⟨ms, by simp [delay, hd, hms]⟩
      · refine .error (fun hmet => ?_) (by simp [delay, delayIsInRange, hd, hms])
        obtain ⟨ms', hms', hrange⟩ := hmet hrole
        cases hd.symm.trans hms'
        exact hms hrange

theorem judges_sap (c : Config) : Judges [sapIsInRange] c c.sap := by
  cases hs : c.linkSap with
  | none => exact .error (by simp [sapIsInRange, hs]) (by simp [sap, sapIsInRange, hs])
  | some n =>
    by_cases hn : 1 ≤ n ∧ n ≤ 0xFFFF
    · exact .ok ⟨n, hs, hn⟩ ⟨.ofNat n, by simp [sap, hs, hn]⟩
    · exact .error (by simp [sapIsInRange, hs, hn]) (by simp [sap, sapIsInRange, hs, hn])

theorem judges_interfaceName (c : Config) : Judges [interfaceIsNamed] c c.interfaceName := by
  cases hi : c.interface with
  | none =>
    exact .error (by simp [interfaceIsNamed, hi]) (by simp [interfaceName, interfaceIsNamed, hi])
  | some name =>
    by_cases hname : name = ""
    · exact .error (by simp [interfaceIsNamed, hi, hname])
        (by simp [interfaceName, interfaceIsNamed, hi, hname])
    · have hsize : ¬ name.utf8ByteSize = 0 := by simpa using hname
      exact .ok ⟨name, hi, hname⟩ ⟨name, by simp [interfaceName, hi, hsize]⟩

theorem judges_kind (c : Config) : Judges [frameIsSet] c c.kind := by
  cases hk : c.frame with
  | none => exact .error (by simp [frameIsSet, hk]) (by simp [kind, frameIsSet, hk])
  | some kind => exact .ok (by simp [frameIsSet, hk]) ⟨kind, kind_eq_ok_iff.mpr hk⟩

/-- The test of the number of slots. -/
theorem isFrameCount_iff {n : Nat} :
    Ring.isFrameCount n = true ↔ 2 ≤ n ∧ n.isPowerOfTwo := by
  simp only [Ring.isFrameCount, Ring.isPowerOfTwo, Bool.and_eq_true, decide_eq_true_eq]
  refine and_congr_right fun _ => ⟨fun h => ⟨n.log2, h.symm⟩, ?_⟩
  rintro ⟨k, rfl⟩
  rw [Nat.log2_two_pow]
  rfl

theorem judges_frames (c : Config) : Judges [ringIsSized] c c.frames := by
  by_cases hring : c.ring = some true
  · have hasked : c.ringFrames.getD Ring.defaultFrames = c.askedFrames := rfl
    by_cases hn : Ring.isFrameCount c.askedFrames = true
    · exact .ok (fun _ => isFrameCount_iff.mp hn)
        ⟨some c.askedFrames, by simp [frames, hring, hasked, hn]⟩
    · refine .error (fun hmet => hn (isFrameCount_iff.mpr (hmet hring))) ?_
      simp [frames, hring, hasked, hn, ringIsSized]
  · exact .ok (fun h => absurd h hring) ⟨none, frames_of_not hring⟩

section Payload

variable {pageSize : Nat} {role : Role} {kind : FrameKind} {slots : Option Nat}

theorem payloadFloor_eq (hrole : c.role = .ok role) (hkind : c.frame = some kind) :
    payloadFloor role kind = if c.SendsRaw then some 14 else none := by
  rw [role_eq_ok_iff] at hrole
  cases role <;> cases kind <;> simp [payloadFloor, SendsRaw, hrole, hkind, minRawPayload]

theorem payloadLimit_eq (hrole : c.role = .ok role) (hslots : c.frames = .ok slots) :
    payloadLimit pageSize role kind slots = c.roomFor pageSize kind := by
  have hring := isSome_of_frames hslots
  rw [role_eq_ok_iff] at hrole
  cases role <;> cases slots <;> simp_all [payloadLimit, roomFor]

/-- What is left to look at where the payload is long enough. -/
theorem judges_room (pageSize : Nat) (hkind : c.frame = some kind) :
    Judges [payloadFits pageSize] c
      (if c.roomFor pageSize kind < c.askedPayload then
        .error (.payloadTooLarge kind (c.roomFor pageSize kind) c.askedPayload)
      else .ok c.askedPayload) := by
  by_cases hroom : c.roomFor pageSize kind < c.askedPayload
  · exact .error (by simp [payloadFits, hkind, hroom]) (by simp [payloadFits, hkind, hroom])
  · exact .ok (by simpa [payloadFits, hkind] using hroom) ⟨c.askedPayload, by simp [hroom]⟩

theorem judges_payload (hrole : c.role = .ok role) (hkind : c.frame = some kind)
    (hslots : c.frames = .ok slots) :
    Judges [payloadIsEnough, payloadFits pageSize] c
      (c.payload pageSize role kind slots) := by
  have hroom := judges_room pageSize hkind
  unfold payload
  rw [payloadFloor_eq hrole hkind, payloadLimit_eq hrole hslots]
  -- The lower bound comes first, and is there for raw frames only.
  by_cases hraw : c.SendsRaw
  · have hasked : c.payloadLength.getD 14 = c.askedPayload := by simp [askedPayload, hraw]
    simp only [hraw, if_true, Option.getD_some, hasked]
    by_cases hshort : c.askedPayload < 14
    · exact .cons (fun hmet => absurd (hmet hraw) (Nat.not_le.mpr hshort))
        fun _ => by simp [payloadIsEnough, hshort]
    · exact .cons (fun _ => by simpa [hshort] using hroom) fun hmet =>
        absurd (fun _ => Nat.not_lt.mp hshort) hmet
  · have hasked : c.payloadLength.getD defaultPayload = c.askedPayload := by
      simp [askedPayload, hraw, defaultPayload]
    simp only [hraw, if_false, Option.getD_none, hasked]
    exact .cons (fun _ => hroom) fun hmet => absurd (fun h => absurd h hraw) hmet

end Payload

/-! ## The whole check -/

theorem judges_validate (pageSize : Nat) (c : Config) :
    Judges (conditions pageSize) c (c.validate pageSize) :=
  (judges_role c).bind fun _ hrole => (judges_delay hrole).bind fun _ _ =>
    (judges_sap c).bind fun _ _ => (judges_interfaceName c).bind fun _ _ =>
    (judges_kind c).bind fun _ hkind => (judges_frames c).bind fun _ hslots =>
    (judges_payload hrole (kind_eq_ok_iff.mp hkind) hslots).map _

/-- The pause of a receiver does not matter. -/
theorem validate_withDelay (pageSize : Nat) (c : Config) (h : c.mode = some .receive)
    (delay : Option Nat) :
    { c with txDelay := delay }.validate pageSize = c.validate pageSize := by
  have hrole : c.role = .ok .receiver := role_eq_ok_iff.mpr h
  have hrole' : { c with txDelay := delay }.role = .ok .receiver := hrole
  unfold validate
  rw [hrole, hrole']
  rfl

/-- The number of slots does not matter where there are no rings. -/
theorem validate_withFrames (pageSize : Nat) (c : Config) (h : c.ring ≠ some true)
    (slots : Option Nat) :
    { c with ringFrames := slots }.validate pageSize = c.validate pageSize := by
  have hslots : { c with ringFrames := slots }.frames = .ok none := frames_of_not h
  unfold validate
  rw [frames_of_not h, hslots]
  rfl

/-- Settings are accepted exactly if they meet all conditions, and otherwise the first one that
they do not meet is reported. The pause of a receiver does not matter, nor does the number of slots
where there are no rings. -/
theorem validate_by_conditions (pageSize : Nat) (c : Config) :
    ((∃ s, c.validate pageSize = .ok s) ↔ ∀ q ∈ conditions pageSize, q.Met c) ∧
    (∀ e, c.validate pageSize = .error e ↔ firstOffence c (conditions pageSize) = some e) ∧
    (c.mode = some .receive → ∀ delay,
      { c with txDelay := delay }.validate pageSize = c.validate pageSize) ∧
    (c.ring ≠ some true → ∀ slots,
      { c with ringFrames := slots }.validate pageSize = c.validate pageSize) := by
  have hjudged := judges_validate pageSize c
  exact ⟨hjudged.exists_ok_iff, hjudged.eq_error_iff, validate_withDelay pageSize c,
    validate_withFrames pageSize c⟩

/-- A receiver without rings is accepted, and neither the pause nor the number of slots matters. -/
theorem validate_by_conditions_receiver :
    let c : Config := { mode := some .receive, linkSap := some 0x88B5, interface := some "lo",
                        frame := some .raw, payloadLength := some 4096 }
    (∃ s, c.validate 4096 = .ok s) ∧
    (∀ delay, { c with txDelay := delay }.validate 4096 = c.validate 4096) ∧
    ∀ slots, { c with ringFrames := slots }.validate 4096 = c.validate 4096 :=
  have h := validate_by_conditions 4096 _
  ⟨h.1.mpr (by decide), h.2.2.1 (by decide), h.2.2.2 (by decide)⟩

example :
    let c : Config := { mode := some .transmit, txDelay := some 1, linkSap := some 0xFFFF,
                        interface := some "lo", frame := some .raw, ring := some true,
                        payloadLength := some 13 }
    c.firstOffence (conditions 4096) = some (.payloadTooShort 14 13) := by decide

end PacketLink.Config
