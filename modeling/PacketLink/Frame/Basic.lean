import PacketLink.Frame.Error
import PacketLink.MacAddr

/-!
# Link-layer frames

* `Header`: the fields that a kind of frame puts before its payload.
* `Envelope`: the kind and the lengths of a frame. It is sealed when the frame is made.
* `Frame`: an envelope, a header and a payload.
* `Frame.build`: a frame from its fields; the payload has to fit.
* `Frame.synthetic`: the test frame of a transmitter. `Frame.panics`: whether making it panics.

Two frames are equal when their headers, their payloads, and kind and length of their envelopes are:
how much of a frame was captured is a fact about the capture, and `Frame.sameContent` does not look
at it.
-/

namespace PacketLink

/-- The fields before the payload. -/
inductive Header where
  | raw
  | ieee8023 (dest src : MacAddr) (ethertype : UInt16)
  | ieee80211 (dest src : MacAddr)
deriving DecidableEq

/-- The kind of frame that a header belongs to. -/
def Header.kind : Header → FrameKind
  | .raw => .raw
  | .ieee8023 .. => .ieee8023
  | .ieee80211 .. => .ieee80211

/-- The kind and the lengths of a frame. -/
structure Envelope where
  kind : FrameKind
  /-- The number of bytes that the frame holds, header included. -/
  length : Nat
  /-- How many bytes the frame had on the wire. -/
  wireLength : Nat
deriving DecidableEq

/-- Whether fewer bytes were kept than the wire carried. -/
def Envelope.isPartial (e : Envelope) : Bool := e.length < e.wireLength

/-- Whether two envelopes have the same kind and length. -/
def Envelope.same (e e' : Envelope) : Bool := e.kind = e'.kind ∧ e.length = e'.length

/-- A link-layer frame. -/
structure Frame where
  /-- It is sealed when the frame is made, and not computed from the rest. -/
  envelope : Envelope
  header : Header
  payload : Bytes
deriving DecidableEq

namespace Frame

/-- The kind of the frame. -/
def kind (f : Frame) : FrameKind := f.envelope.kind

/-- The number of bytes that the frame holds, header included. -/
def length (f : Frame) : Nat := f.envelope.length

/-- How many bytes the frame had on the wire. -/
def wireLength (f : Frame) : Nat := f.envelope.wireLength

/-- Whether fewer bytes were kept than the wire carried. -/
def isPartial (f : Frame) : Bool := f.envelope.isPartial

/-- Whether two frames have the same kind and length. -/
def sameShape (f g : Frame) : Bool := f.envelope.same g.envelope

/-- Whether two frames are equal: in kind and length, header and payload. -/
def sameContent (f g : Frame) : Bool :=
  f.sameShape g ∧ f.header = g.header ∧ f.payload = g.payload

/-- The ethertype field read as a payload length, which it is up to the longest payload. -/
def lengthField (f : Frame) : Option Nat :=
  match f.header with
  | .ieee8023 _ _ ethertype =>
    if ethertype.toNat ≤ FrameKind.ieee8023.maxPayload then some ethertype.toNat else none
  | _ => none

/-- A frame from its fields. It is as long as the header of its kind and the payload together. -/
def build (header : Header) (payload : Bytes) : Except FrameError Frame :=
  if header.kind.maxPayload < payload.length then
    .error (.payloadTooLarge header.kind header.kind.maxPayload payload.length)
  else
    let length := header.kind.headerLength + payload.length
    .ok { envelope := { kind := header.kind, length, wireLength := length }, header, payload }

/-- One more than the size of the largest object that can be held in memory. -/
def addressLimit : Nat := 0x8000000000000000

/-- Whether the program panics when it makes a payload of this length, because there cannot be so
much memory. For every shorter payload there is taken to be memory. -/
def panics (payloadLength : Nat) : Bool := addressLimit ≤ payloadLength

/-- The header of a test frame: to all stations, from `src`, of ethertype `sap`. -/
def syntheticHeader (kind : FrameKind) (src : MacAddr) (sap : UInt16) : Header :=
  match kind with
  | .raw => .raw
  | .ieee8023 => .ieee8023 .broadcast src sap
  | .ieee80211 => .ieee80211 .broadcast src

@[simp] theorem kind_syntheticHeader (kind : FrameKind) (src : MacAddr) (sap : UInt16) :
    (syntheticHeader kind src sap).kind = kind := by
  cases kind <;> rfl

/-- The test frame with `payloadLength` zero bytes of payload, if there is memory for them. A length
that the kind does not allow is refused before the payload is made. -/
def synthetic (kind : FrameKind) (src : MacAddr) (sap : UInt16) (payloadLength : Nat) :
    Except FrameError Frame :=
  if kind.maxPayload < payloadLength then
    .error (.payloadTooLarge kind kind.maxPayload payloadLength)
  else build (syntheticHeader kind src sap) (List.replicate payloadLength 0)

end Frame

end PacketLink
