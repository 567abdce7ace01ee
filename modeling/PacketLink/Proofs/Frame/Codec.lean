import PacketLink.Frame.Codec

/-!
# Frames and their bytes

* `Header.IsAt b`: the fields of a header are in `b`, each at its place.
* `IsReading kind b w f`: `f` is what a capture `b` of a frame with `w` bytes on the wire reads as.
  A capture either has such a reading or is shorter than the header (`decode_exact`), and the bytes
  of a frame are read as another kind in the same way (`Recodes`).
* `IsSealed`: the envelope of a frame tells the kind of its header and the length of what is in it.
  However a frame was made, its envelope is sealed so (`Made.isSealed`).
* `synthetic_eq_ok`: a test frame can be made if the kind allows its payload.
* `encode_canonical`: a frame that was made is read back from its bytes, and two of them are equal
  exactly if they have the same kind and the same bytes.

The bytes of a reading are the first bytes of the capture (`encode_reading`) because a header is
written as it was read (`Header.encode_ofBytes`). That a frame is read back from its bytes
(`decode_encode`) rests on the other direction, `Header.ofBytes_encode_append`.
-/

namespace PacketLink

theorem FrameKind.maxPayload_le (kind : FrameKind) : kind.maxPayload ≤ 4096 := by
  cases kind <;> decide

theorem MacAddr.octets_ofPadded {b : Bytes} (h : 6 ≤ b.length) :
    (MacAddr.ofPadded b).octets = b.take 6 := List.take_append_of_le_length h

namespace Header

/-- The fields of the header are in `b`: the destination first, the source behind it, and then an
ethertype with its high byte first. -/
def IsAt (b : Bytes) : Header → Prop
  | .raw => True
  | .ieee8023 dest src ethertype =>
    dest.octets = b.take 6 ∧ src.octets = (b.drop 6).take 6 ∧ ∃ high low,
      b[12]? = some high ∧ b[13]? = some low ∧ ethertype.toNat = 256 * high.toNat + low.toNat
  | .ieee80211 dest src => dest.octets = b.take 6 ∧ src.octets = (b.drop 6).take 6

variable {kind : FrameKind} {b : Bytes}

/-- Two bytes with the high one first. -/
theorem ofBigEndian_pair (high low : UInt8) :
    Bytes.ofBigEndian [high, low] = 256 * high.toNat + low.toNat := by
  simp only [Bytes.ofBigEndian, List.reverse_cons, List.reverse_nil, List.nil_append,
    List.singleton_append, Bytes.ofLittleEndian]
  omega

theorem take_drop_pair (h : 14 ≤ b.length) : (b.drop 12).take 2 = [b[12], b[13]] := by
  rw [List.drop_eq_getElem_cons (by omega), List.drop_eq_getElem_cons (by omega)]
  rfl

theorem isAt_ofBytes (h : kind.headerLength ≤ b.length) : (ofBytes kind b).IsAt b := by
  cases kind with
  | raw => trivial
  | ieee8023 =>
    have h14 : 14 ≤ b.length := h
    have hsrc := MacAddr.octets_ofPadded (b := b.drop 6) (by rw [List.length_drop]; omega)
    refine ⟨MacAddr.octets_ofPadded (by omega), hsrc, b[12], b[13],
      List.getElem?_eq_getElem _, List.getElem?_eq_getElem _, ?_⟩
    have hhigh := b[12].toNat_lt
    have hlow := b[13].toNat_lt
    rw [take_drop_pair h14, ofBigEndian_pair, UInt16.toNat_ofNat']
    omega
  | ieee80211 =>
    have h12 : 12 ≤ b.length := h
    exact ⟨MacAddr.octets_ofPadded (by omega),
      MacAddr.octets_ofPadded (by rw [List.length_drop]; omega)⟩

/-- A header whose fields are in `b` is written as the first bytes of `b`. -/
theorem IsAt.encode_eq {h : Header} (hat : h.IsAt b) (hb : h.kind.headerLength ≤ b.length) :
    h.encode = b.take h.kind.headerLength := by
  cases h with
  | raw => rfl
  | ieee8023 dest src ethertype =>
    have h14 : 14 ≤ b.length := hb
    obtain ⟨hdest, hsrc, high, low, hhigh, hlow, hvalue⟩ := hat
    have hbytes : Bytes.bigEndian 2 ethertype.toNat = (b.drop 12).take 2 := by
      rw [take_drop_pair h14, hvalue, ← ofBigEndian_pair]
      rw [List.getElem?_eq_getElem (by omega)] at hhigh hlow
      rw [Option.some.inj hhigh, Option.some.inj hlow]
      exact Bytes.bigEndian_ofBigEndian [high, low]
    rw [encode, hdest, hsrc, hbytes, ← List.take_add, ← List.take_add]
    rfl
  | ieee80211 dest src =>
    obtain ⟨hdest, hsrc⟩ := hat
    rw [encode, hdest, hsrc, ← List.take_add]
    rfl

/-- A header is written as the bytes that it was read from. -/
theorem encode_ofBytes (h : kind.headerLength ≤ b.length) :
    (ofBytes kind b).encode = b.take kind.headerLength := by
  have hat := (isAt_ofBytes h).encode_eq (by rwa [kind_ofBytes])
  rwa [kind_ofBytes] at hat

/-- A header is read from the bytes that it takes, whatever more of the capture there is. -/
theorem ofBytes_take (h : kind.headerLength ≤ b.length) (n : Nat) :
    ofBytes kind (b.take (kind.headerLength + n)) = ofBytes kind b := by
  have happend := ofBytes_encode_append (ofBytes kind b) ((b.drop kind.headerLength).take n)
  rwa [kind_ofBytes, encode_ofBytes h, ← List.take_add] at happend

end Header

namespace Frame

variable {kind : FrameKind} {b : Bytes} {w : Nat} {f g : Frame}

/-! ## Reading -/

/-- `f` is what a capture `b` of a frame with `w` bytes on the wire reads as. -/
structure IsReading (kind : FrameKind) (b : Bytes) (w : Nat) (f : Frame) : Prop where
  kind_eq : f.kind = kind
  header_kind : f.header.kind = kind
  header : f.header.IsAt b
  /-- As much was kept as the kind allows, and written again it is what it was. -/
  encode : f.encode = b.take (min b.length kind.maxLength)
  length : f.length = min b.length kind.maxLength
  wireLength : f.wireLength = max w b.length
  isPartial_iff : f.isPartial = true ↔ f.encode.length < max w b.length
  length_le : f.length ≤ kind.maxLength
  encode_of_fits : b.length ≤ kind.maxLength → f.encode = b

theorem decode_of_lt (h : b.length < kind.headerLength) (w : Nat) :
    decode kind b w = .error (.truncated kind kind.headerLength b.length) := if_pos h

/-- The frame that a capture reads as, once it has a header. -/
def reading (kind : FrameKind) (b : Bytes) (w : Nat) : Frame where
  envelope := {
    kind
    length := min b.length kind.maxLength
    wireLength := max w b.length }
  header := .ofBytes kind b
  payload := (b.take (min b.length kind.maxLength)).drop kind.headerLength

theorem decode_of_le (h : kind.headerLength ≤ b.length) (w : Nat) :
    decode kind b w = .ok (reading kind b w) := if_neg (Nat.not_lt.mpr h)

theorem decode_eq_ok_iff :
    decode kind b w = .ok f ↔ kind.headerLength ≤ b.length ∧ f = reading kind b w := by
  by_cases h : kind.headerLength ≤ b.length
  · rw [decode_of_le h, Except.ok.injEq, eq_comm]
    exact (and_iff_right h).symm
  · rw [decode_of_lt (Nat.lt_of_not_le h)]
    exact ⟨nofun, fun hok => absurd hok.1 h⟩

@[simp] theorem header_kind_reading (kind : FrameKind) (b : Bytes) (w : Nat) :
    (reading kind b w).header.kind = kind := Header.kind_ofBytes kind b

theorem headerLength_le_maxLength (kind : FrameKind) : kind.headerLength ≤ kind.maxLength :=
  Nat.le_add_right ..

/-- Header and payload together are the first bytes of the capture. -/
theorem encode_reading (h : kind.headerLength ≤ b.length) (w : Nat) :
    (reading kind b w).encode = b.take (min b.length kind.maxLength) := by
  have hheader : b.take kind.headerLength =
      (b.take (min b.length kind.maxLength)).take kind.headerLength := by
    rw [List.take_take, Nat.min_eq_left (Nat.le_min.mpr ⟨h, headerLength_le_maxLength kind⟩)]
  rw [Frame.encode, reading, Header.encode_ofBytes h, hheader, List.take_append_drop]

theorem length_encode_reading (h : kind.headerLength ≤ b.length) (w : Nat) :
    (reading kind b w).encode.length = min b.length kind.maxLength := by
  rw [encode_reading h, List.length_take]
  exact Nat.min_eq_left (Nat.min_le_left ..)

theorem isReading_reading (h : kind.headerLength ≤ b.length) (w : Nat) :
    IsReading kind b w (reading kind b w) where
  kind_eq := rfl
  header_kind := header_kind_reading kind b w
  header := Header.isAt_ofBytes h
  encode := encode_reading h w
  length := rfl
  wireLength := rfl
  isPartial_iff := by
    rw [length_encode_reading h]
    exact decide_eq_true_iff
  length_le := Nat.min_le_right ..
  encode_of_fits hfit := by
    rw [encode_reading h, Nat.min_eq_left hfit, List.take_length]

/-- A capture that was cut to the longest frame of the kind reads as the whole capture. -/
theorem decode_take_maxLength (kind : FrameKind) (h : b.length ≤ w) :
    decode kind (b.take kind.maxLength) w = decode kind b w := by
  have hlength : (b.take kind.maxLength).length = min kind.maxLength b.length := List.length_take
  have hmax := headerLength_le_maxLength kind
  by_cases hle : kind.headerLength ≤ b.length
  · have hheader := Header.ofBytes_take hle kind.maxPayload
    have hstop : min (b.take kind.maxLength).length kind.maxLength =
        min b.length kind.maxLength := by omega
    have hkept : (b.take kind.maxLength).take (min b.length kind.maxLength) =
        b.take (min b.length kind.maxLength) := by
      rw [List.take_take, Nat.min_eq_left (Nat.min_le_right ..)]
    have hwire : max w (b.take kind.maxLength).length = max w b.length := by omega
    rw [decode_of_le hle, decode_of_le (by omega)]
    simp only [reading, hstop, hkept, hwire]
    simp only [FrameKind.maxLength, hheader]
  · rw [List.take_of_length_le (by omega)]

/-- What reading the bytes of `f` as a kind gives: only the longest frame of that kind matters. -/
structure Recodes (kind : FrameKind) (f : Frame) : Prop where
  truncated_iff : recode kind f = .error (.truncated kind kind.headerLength f.encode.length) ↔
    f.encode.length < kind.headerLength
  ok_iff : (∃ g, recode kind f = .ok g ∧ g.kind = kind ∧ g.header.kind = kind ∧
      g.encode = f.encode.take kind.maxLength) ↔
    kind.headerLength ≤ f.encode.length

theorem truncated_iff : decode kind b w = .error (.truncated kind kind.headerLength b.length) ↔
    b.length < kind.headerLength := by
  refine ⟨fun he => Nat.lt_of_not_le fun hle => ?_, fun h => decode_of_lt h w⟩
  rw [decode_of_le hle] at he
  cases he

theorem recodes (kind : FrameKind) (f : Frame) : Recodes kind f where
  truncated_iff := truncated_iff
  ok_iff := by
    constructor
    · rintro ⟨g, hg, -⟩
      exact (decode_eq_ok_iff.mp hg).1
    · intro h
      refine ⟨_, decode_of_le h _, rfl, header_kind_reading .., ?_⟩
      rw [encode_reading h, Nat.min_comm, ← List.take_eq_take_min]

/-- A capture is refused exactly if it is shorter than the header, and otherwise read for what it
is. The bytes of any frame are read as any kind in the same way. -/
theorem decode_exact (kind : FrameKind) (b : Bytes) (w : Nat) :
    (decode kind b w = .error (.truncated kind kind.headerLength b.length) ↔
        b.length < kind.headerLength) ∧
      ((∃ f, decode kind b w = .ok f ∧ IsReading kind b w f) ↔ kind.headerLength ≤ b.length) ∧
      ∀ f, Recodes kind f := by
  refine ⟨truncated_iff, ⟨?_, fun h => ?_⟩, recodes kind⟩
  · rintro ⟨f, hf, -⟩
    exact (decode_eq_ok_iff.mp hf).1
  · exact ⟨_, decode_of_le h w, isReading_reading h w⟩

/-- A capture of 16 bytes, longer than what it is said to have had on the wire. -/
example : (decode .ieee8023 (List.replicate 12 0xFF ++ [0x88, 0xB5, 1, 2]) 3).toOption.map
    (fun f => (f.lengthField, f.payload, f.wireLength)) = some (none, [1, 2], 16) := by decide

/-! ## Sealing -/

/-- The frames that can be made: from their fields, as a test frame, or from bytes. -/
inductive Made : Frame → Prop where
  | build {header : Header} {payload : Bytes} {f : Frame} (h : build header payload = .ok f) :
    Made f
  | synthetic {kind : FrameKind} {src : MacAddr} {sap : UInt16} {n : Nat} {f : Frame}
    (h : synthetic kind src sap n = .ok f) : Made f
  | decode {kind : FrameKind} {b : Bytes} {w : Nat} {f : Frame} (h : decode kind b w = .ok f) :
    Made f

/-- The envelope of a frame tells what is in it. -/
structure IsSealed (f : Frame) : Prop where
  kind : f.kind = f.header.kind
  /-- The length is that of header and payload, and so that of the bytes of the frame. -/
  length : f.length = f.kind.headerLength + f.payload.length
  payload_le : f.payload.length ≤ f.kind.maxPayload
  le_wireLength : f.length ≤ f.wireLength

theorem build_eq_ok_iff {header : Header} {payload : Bytes} :
    build header payload = .ok f ↔ payload.length ≤ header.kind.maxPayload ∧
      f = ⟨⟨header.kind, header.kind.headerLength + payload.length,
        header.kind.headerLength + payload.length⟩, header, payload⟩ := by
  unfold build
  by_cases hl : header.kind.maxPayload < payload.length
  · rw [if_pos hl]
    exact ⟨nofun, fun h => absurd h.1 (Nat.not_le.mpr hl)⟩
  · rw [if_neg hl, Except.ok.injEq, eq_comm]
    exact (and_iff_right (Nat.not_lt.mp hl)).symm

theorem isSealed_of_build {header : Header} {payload : Bytes}
    (h : Frame.build header payload = .ok f) : IsSealed f := by
  obtain ⟨hle, rfl⟩ := build_eq_ok_iff.mp h
  exact ⟨rfl, rfl, hle, Nat.le_refl _⟩

theorem build_of_synthetic {src : MacAddr} {sap : UInt16} {n : Nat}
    (h : Frame.synthetic kind src sap n = .ok f) :
    Frame.build (syntheticHeader kind src sap) (List.replicate n 0) = .ok f := by
  unfold Frame.synthetic at h
  split at h
  · cases h
  · exact h

theorem isSealed_reading (h : kind.headerLength ≤ b.length) (w : Nat) :
    IsSealed (reading kind b w) where
  kind := (header_kind_reading kind b w).symm
  length := by
    have hencode := length_encode_reading h w
    rw [length_encode, header_kind_reading] at hencode
    exact hencode.symm
  payload_le := by
    have hmax : kind.maxLength = kind.headerLength + kind.maxPayload := rfl
    show ((b.take (min b.length kind.maxLength)).drop kind.headerLength).length ≤ kind.maxPayload
    rw [List.length_drop, List.length_take]
    omega
  le_wireLength := Nat.le_trans (Nat.min_le_left ..) (Nat.le_max_right ..)

/-- However a frame was made, its envelope was sealed for what is in it. -/
theorem Made.isSealed (h : Made f) : IsSealed f := by
  cases h with
  | build h => exact isSealed_of_build h
  | synthetic h => exact isSealed_of_build (build_of_synthetic h)
  | decode h =>
    obtain ⟨hle, rfl⟩ := decode_eq_ok_iff.mp h
    exact isSealed_reading hle _

theorem IsSealed.length_encode (hf : IsSealed f) : f.encode.length = f.length := by
  rw [Frame.length_encode, ← hf.kind, hf.length]

theorem IsSealed.length_le (hf : IsSealed f) : f.length ≤ f.kind.maxLength := by
  rw [hf.length]
  exact Nat.add_le_add_left hf.payload_le _

/-! ## Equality -/

/-- A frame has the bytes that it says it has, and is read back from them. -/
structure IsCanonical (f : Frame) : Prop where
  length_eq : f.length = f.encode.length
  length_encode : f.encode.length = f.kind.headerLength + f.payload.length
  length_le : f.encode.length ≤ f.kind.maxLength
  le_wireLength : f.length ≤ f.wireLength
  decode_encode : ∃ g, decodeWhole f.kind f.encode = .ok g ∧
    g.sameContent f = true ∧ g.sameShape f = true

/-- The bytes of a frame read as its own kind are the frame again, up to the length on the wire. -/
theorem IsSealed.decode_encode (hf : IsSealed f) (w : Nat) : decode f.kind f.encode w =
    .ok { f with envelope := { f.envelope with wireLength := max w f.length } } := by
  have hle : f.kind.headerLength ≤ f.encode.length := by
    rw [hf.length_encode, hf.length]
    exact Nat.le_add_right ..
  have hheader : Header.ofBytes f.kind f.encode = f.header := by
    rw [hf.kind]
    exact Header.ofBytes_encode_append f.header f.payload
  have hpayload : f.encode.drop f.kind.headerLength = f.payload := by
    rw [Frame.encode, hf.kind, ← Header.length_encode f.header, List.drop_left]
  have hstop : min f.encode.length f.kind.maxLength = f.length := by
    rw [hf.length_encode]
    exact Nat.min_eq_left hf.length_le
  have hkept : f.encode.take f.length = f.encode := by rw [← hf.length_encode, List.take_length]
  rw [decode_of_le hle, reading, hheader, hstop, hkept, hpayload, hf.length_encode]
  rfl

/-- A frame that is whole is what its bytes read as. -/
theorem IsSealed.decodeWhole_encode (hf : IsSealed f) (hw : f.wireLength = f.length) :
    decodeWhole f.kind f.encode = .ok f := by
  rw [decodeWhole, hf.decode_encode, hf.length_encode, Nat.max_self, ← hw]
  rfl

theorem sameShape_iff : f.sameShape g = true ↔ f.kind = g.kind ∧ f.length = g.length :=
  decide_eq_true_iff

theorem sameContent_iff : f.sameContent g = true ↔
    f.sameShape g = true ∧ f.header = g.header ∧ f.payload = g.payload :=
  decide_eq_true_iff

theorem sameShape_of_sameContent (h : f.sameContent g = true) : f.sameShape g = true :=
  (sameContent_iff.mp h).1

/-- Of one kind there are no two frames with the same bytes, as both are what these bytes read
as. -/
theorem IsSealed.sameContent_iff_encode (hf : IsSealed f) (hg : IsSealed g) :
    f.sameContent g = true ↔ f.kind = g.kind ∧ f.encode = g.encode := by
  rw [sameContent_iff, sameShape_iff]
  constructor
  · rintro ⟨⟨hk, -⟩, hh, hp⟩
    exact ⟨hk, by rw [Frame.encode, Frame.encode, hh, hp]⟩
  · rintro ⟨hk, he⟩
    have hlength : f.length = g.length := by rw [← hf.length_encode, ← hg.length_encode, he]
    have hread := hf.decode_encode 0
    rw [hk, he, hg.decode_encode] at hread
    have hsame := Except.ok.inj hread
    exact ⟨⟨hk, hlength⟩, (congrArg Frame.header hsame).symm, (congrArg Frame.payload hsame).symm⟩

theorem IsSealed.isCanonical (hf : IsSealed f) : IsCanonical f where
  length_eq := hf.length_encode.symm
  length_encode := by rw [hf.length_encode, hf.length]
  length_le := hf.length_encode ▸ hf.length_le
  le_wireLength := hf.le_wireLength
  decode_encode := by
    refine ⟨_, hf.decode_encode _, ?_, ?_⟩
    · exact sameContent_iff.mpr ⟨sameShape_iff.mpr ⟨rfl, rfl⟩, rfl, rfl⟩
    · exact sameShape_iff.mpr ⟨rfl, rfl⟩

/-- However frames were made, their bytes stand for them: each is read back from its bytes, and two
of them are equal, in length and content, exactly if they have the same kind and the same bytes. -/
theorem encode_canonical (hf : Made f) (hg : Made g) : IsCanonical f ∧ IsCanonical g ∧
    (f.sameContent g = true ↔ f.kind = g.kind ∧ f.encode = g.encode) ∧
    (f.sameContent g = true → f.sameShape g = true) :=
  ⟨hf.isSealed.isCanonical, hg.isSealed.isCanonical,
    hf.isSealed.sameContent_iff_encode hg.isSealed, sameShape_of_sameContent⟩

/-- A part of a long frame, and the same bytes as a whole frame. -/
theorem encode_canonical_partial : ∃ f g, Made f ∧ Made g ∧ f.isPartial = true ∧
    g.isPartial = false ∧ IsCanonical f ∧ IsCanonical g ∧
    (f.sameContent g = true ↔ f.kind = g.kind ∧ f.encode = g.encode) ∧
    (f.sameContent g = true → f.sameShape g = true) := by
  have hf : Made (reading .ieee80211 (List.replicate 13 7) 2000) :=
    .decode (decode_of_le (by decide) 2000)
  have hg : Made (reading .ieee80211 (List.replicate 13 7) 13) :=
    .decode (decode_of_le (by decide) 13)
  exact ⟨_, _, hf, hg, by decide, by decide, encode_canonical hf hg⟩

/-! ## Test frames -/

/-- The test frame with `n` bytes of payload. -/
structure IsTest (kind : FrameKind) (source : MacAddr) (sap : UInt16) (n : Nat) (f : Frame) :
    Prop where
  /-- It goes to all stations, and only 802.3 has a field for the protocol. -/
  header : f.header =
    match kind with
    | .raw => .raw
    | .ieee8023 => .ieee8023 .broadcast source sap
    | .ieee80211 => .ieee80211 .broadcast source
  payload : f.payload = List.replicate n 0
  wireLength : f.wireLength = f.length
  isSealed : IsSealed f

variable {source : MacAddr} {sap : UInt16} {n : Nat}

theorem IsTest.header_kind (ht : IsTest kind source sap n f) : f.header.kind = kind := by
  rw [ht.header]
  cases kind <;> rfl

theorem IsTest.kind_eq (ht : IsTest kind source sap n f) : f.kind = kind := by
  rw [ht.isSealed.kind, ht.header_kind]

theorem IsTest.length_encode (ht : IsTest kind source sap n f) :
    f.encode.length = kind.headerLength + n := by
  rw [Frame.length_encode, ht.header_kind, ht.payload, List.length_replicate]

theorem IsTest.isPartial (ht : IsTest kind source sap n f) : f.isPartial = false :=
  decide_eq_false (Nat.not_lt.mpr (Nat.le_of_eq ht.wireLength))

/-- A payload that the kind allows makes a test frame. -/
theorem synthetic_eq_ok (hn : n ≤ kind.maxPayload) (source : MacAddr) (sap : UInt16) :
    ∃ f, synthetic kind source sap n = .ok f ∧ IsTest kind source sap n f := by
  have hfit : (List.replicate n (0 : UInt8)).length ≤
      (syntheticHeader kind source sap).kind.maxPayload := by
    rwa [kind_syntheticHeader, List.length_replicate]
  have hbuild := build_eq_ok_iff.mpr ⟨hfit, rfl⟩
  refine ⟨_, ?_, ?_, rfl, rfl, isSealed_of_build hbuild⟩
  · rw [synthetic, if_neg (Nat.not_lt.mpr hn), hbuild]
  · cases kind <;> rfl

/-- For every payload that the kind allows there is memory. -/
theorem panics_eq_false (hn : n ≤ kind.maxPayload) : panics n = false := by
  have hmax := kind.maxPayload_le
  refine decide_eq_false (Nat.not_le.mpr ?_)
  unfold addressLimit
  omega

end Frame

end PacketLink
