import PacketLink.Frame.Basic
import PacketLink.Log

/-!
# Frames as bytes

* `Frame.encode`: the bytes of a frame on the wire.
* `Frame.decode`: reads a capture of a frame as a kind. It fails only on a capture shorter than
  the header, and keeps no more than the kind allows.
* `Frame.recode`: the bytes of a frame read as another kind.
* `Frame.decodeReports`: what is worth reporting about a capture that was read.
-/

namespace PacketLink

/-- The bytes of the header. -/
def Header.encode : Header → Bytes
  | .raw => []
  | .ieee8023 dest src ethertype =>
    dest.octets ++ src.octets ++ Bytes.bigEndian 2 ethertype.toNat
  | .ieee80211 dest src => dest.octets ++ src.octets

/-- Every header has the length of its kind. -/
@[simp] theorem Header.length_encode (h : Header) :
    h.encode.length = h.kind.headerLength := by
  cases h <;> simp [encode, kind, FrameKind.headerLength, MacAddr.length_octets]

/-- The header at the front of a capture; missing bytes count as zero. -/
def Header.ofBytes (kind : FrameKind) (captured : Bytes) : Header :=
  match kind with
  | .raw => .raw
  | .ieee8023 =>
    .ieee8023 (.ofPadded captured) (.ofPadded (captured.drop 6))
      (UInt16.ofNat (Bytes.ofBigEndian ((captured.drop 12).take 2)))
  | .ieee80211 => .ieee80211 (.ofPadded captured) (.ofPadded (captured.drop 6))

@[simp] theorem Header.kind_ofBytes (kind : FrameKind) (captured : Bytes) :
    (Header.ofBytes kind captured).kind = kind := by
  cases kind <;> rfl

/-- A header is read back from its bytes, whatever follows them. -/
theorem Header.ofBytes_encode_append (h : Header) (rest : Bytes) :
    Header.ofBytes h.kind (h.encode ++ rest) = h := by
  cases h with
  | raw => rfl
  | ieee8023 dest src ethertype =>
    have hd := dest.length_octets
    have hs := src.length_octets
    have h6 :
        List.drop 6 (dest.octets ++ (src.octets ++ (Bytes.bigEndian 2 ethertype.toNat ++ rest)))
          = src.octets ++ (Bytes.bigEndian 2 ethertype.toNat ++ rest) := by
      rw [List.drop_append_of_le_length (by omega), List.drop_of_length_le (by omega)]; rfl
    have h12 :
        List.drop 12 (dest.octets ++ (src.octets ++ (Bytes.bigEndian 2 ethertype.toNat ++ rest)))
          = Bytes.bigEndian 2 ethertype.toNat ++ rest := by
      rw [show 12 = 6 + 6 from rfl, ← List.drop_drop, h6,
        List.drop_append_of_le_length (by omega), List.drop_of_length_le (by omega)]; rfl
    have ht : List.take 2 (Bytes.bigEndian 2 ethertype.toNat ++ rest)
        = Bytes.bigEndian 2 ethertype.toNat := by
      rw [List.take_append_of_le_length (by simp), List.take_of_length_le (by simp)]
    simp [encode, kind, ofBytes, h6, h12, ht, Bytes.ofBigEndian_bigEndian]
  | ieee80211 dest src =>
    have hd := dest.length_octets
    have h6 : List.drop 6 (dest.octets ++ (src.octets ++ rest)) = src.octets ++ rest := by
      rw [List.drop_append_of_le_length (by omega), List.drop_of_length_le (by omega)]; rfl
    simp [encode, kind, ofBytes, h6]

namespace Frame

/-- The bytes of the frame on the wire. -/
def encode (f : Frame) : Bytes := f.header.encode ++ f.payload

@[simp] theorem length_encode (f : Frame) :
    f.encode.length = f.header.kind.headerLength + f.payload.length := by
  simp [encode]

/-- Reads a capture of a frame that had `wireLength` bytes on the wire. -/
def decode (kind : FrameKind) (captured : Bytes) (wireLength : Nat) : Except FrameError Frame :=
  if captured.length < kind.headerLength then
    .error (.truncated kind kind.headerLength captured.length)
  else
    let stop := min captured.length kind.maxLength
    .ok {
      envelope := { kind, length := stop, wireLength := max wireLength captured.length }
      header := .ofBytes kind captured
      payload := (captured.take stop).drop kind.headerLength }

/-- Reads a whole frame. -/
def decodeWhole (kind : FrameKind) (bytes : Bytes) : Except FrameError Frame :=
  decode kind bytes bytes.length

/-- Reads the bytes of a frame as another kind. -/
def recode (kind : FrameKind) (f : Frame) : Except FrameError Frame := decodeWhole kind f.encode

/-- The name of a kind in reports about its captures. -/
def captureLabel : FrameKind → String
  | .raw => "raw"
  | .ieee8023 => "802.3"
  | .ieee80211 => "802.11"

/-- The report of a capture that holds less than the wire carried. -/
def partialReport (kind : FrameKind) (captured wireLength : Nat) : List Log.Entry :=
  if captured < wireLength then
    [Log.warn ("partial " ++ captureLabel kind ++ " capture")
      [Log.number "captured" captured, Log.number "wire_len" wireLength]]
  else []

/-- The report of a payload that is shorter than the frame itself says. -/
def lengthReport (f : Frame) : List Log.Entry :=
  match f.lengthField with
  | some value =>
    if f.payload.length < value then
      [Log.warn "802.3 payload shorter than its length field"
        [Log.number "length_field" value, Log.number "payload" f.payload.length]]
    else []
  | none => []

/-- What is worth reporting about a capture of `captured` bytes that was read as `f`. -/
def decodeReports (f : Frame) (captured wireLength : Nat) : List Log.Entry :=
  partialReport f.header.kind captured wireLength ++ f.lengthReport

end Frame

end PacketLink
