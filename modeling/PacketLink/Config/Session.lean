import PacketLink.Config.Basic
import PacketLink.Config.Error
import PacketLink.Link.Socket

/-!
# Checked settings

* `SessionConfig`: settings that a session can run with.
* `Config.validate`: checks settings in a fixed order, so that the first offence is reported.
* `truncateName`: the part of an interface name that the system can hold: the longest beginning of
  at most fifteen bytes that does not cut a character.
-/

namespace PacketLink

/-- Settings that a session can run with. -/
structure SessionConfig where
  role : Role
  interface : String
  kind : FrameKind
  linkSap : UInt16
  /-- The pause between sent frames, in milliseconds; zero for a receiver. -/
  txDelay : Nat
  ringFrames : Option Nat
  payloadLength : Nat
deriving DecidableEq

/-- The longest beginning of a text that takes at most `room` bytes. -/
def takeBytes (room : Nat) : List Char → List Char
  | [] => []
  | c :: rest => if c.utf8Size ≤ room then c :: takeBytes (room - c.utf8Size) rest else []

/-- The part of an interface name that the system can hold. -/
def truncateName (name : String) : String :=
  String.ofList (takeBytes maxInterfaceName name.toList)

/-- The payload of a frame if nothing else is said. -/
def defaultPayload : Nat := 10

/-- The shortest raw frame that the kernel sends for everybody: one header. -/
def minRawPayload : Nat := 14

namespace Config

/-- The role that the mode asks for. -/
def role (c : Config) : Except ConfigError Role :=
  match c.mode with
  | some .transmit => .ok .transmitter
  | some .receive => .ok .receiver
  | none => .error .missingMode

/-- The pause between sent frames. A receiver has none, whatever is set. -/
def delay (c : Config) (role : Role) : Except ConfigError Nat :=
  match role, c.txDelay with
  | .receiver, _ => .ok 0
  | .transmitter, none => .error (.missing "tx_delay_ms")
  | .transmitter, some ms => if 1 ≤ ms ∧ ms ≤ maxTxDelay then .ok ms else .error (.txDelay ms)

/-- The protocol, of sixteen bits and not zero. -/
def sap (c : Config) : Except ConfigError UInt16 :=
  match c.linkSap with
  | none => .error (.missing "link_sap")
  | some n => if 1 ≤ n ∧ n ≤ 0xFFFF then .ok (UInt16.ofNat n) else .error (.linkSap n)

/-- The name of the interface as it was given. -/
def interfaceName (c : Config) : Except ConfigError String :=
  match c.interface with
  | none => .error (.missing "interface")
  | some name => if name.utf8ByteSize = 0 then .error .emptyInterface else .ok name

/-- The kind of frames. -/
def kind (c : Config) : Except ConfigError FrameKind :=
  match c.frame with
  | none => .error (.missing "frame")
  | some kind => .ok kind

/-- The number of slots of the rings, if there are rings. -/
def frames (c : Config) : Except ConfigError (Option Nat) :=
  if c.ring.getD false then
    let n := c.ringFrames.getD Ring.defaultFrames
    if Ring.isFrameCount n then .ok (some n) else .error (.ringFrames n)
  else .ok none

/-- The longest payload of a frame of this kind that this role can handle here. -/
def payloadLimit (pageSize : Nat) (role : Role) (kind : FrameKind) (frames : Option Nat) : Nat :=
  match role, frames with
  | .transmitter, some _ => min kind.maxPayload (Ring.sendCapacity pageSize - kind.headerLength)
  | _, _ => kind.maxPayload

/-- The shortest payload of a frame of this kind that this role can handle, if there is one. -/
def payloadFloor (role : Role) (kind : FrameKind) : Option Nat :=
  match role, kind with
  | .transmitter, .raw => some minRawPayload
  | _, _ => none

/-- The payload of sent frames. -/
def payload (c : Config) (pageSize : Nat) (role : Role) (kind : FrameKind) (frames : Option Nat) :
    Except ConfigError Nat :=
  let floor := payloadFloor role kind
  let length := c.payloadLength.getD (floor.getD defaultPayload)
  let maximum := payloadLimit pageSize role kind frames
  match floor with
  | some minimum =>
    if length < minimum then .error (.payloadTooShort minimum length)
    else if maximum < length then .error (.payloadTooLarge kind maximum length)
    else .ok length
  | none =>
    if maximum < length then .error (.payloadTooLarge kind maximum length) else .ok length

/-- Checks the settings, on a system with this page size. -/
def validate (pageSize : Nat) (c : Config) : Except ConfigError SessionConfig := do
  let role ← c.role
  let txDelay ← c.delay role
  let linkSap ← c.sap
  let name ← c.interfaceName
  let kind ← c.kind
  let ringFrames ← c.frames
  let payloadLength ← c.payload pageSize role kind ringFrames
  pure { role, interface := truncateName name, kind, linkSap, txDelay, ringFrames, payloadLength }

/-- The name of the interface, if the check gets as far as that. -/
def checkedName (c : Config) : Except ConfigError String := do
  let role ← c.role
  let _ ← c.delay role
  let _ ← c.sap
  c.interfaceName

/-- What the check reports: an interface name that had to be cut. -/
def reports (c : Config) : List Log.Entry :=
  match c.checkedName with
  | .error _ => []
  | .ok name =>
    if name.utf8ByteSize ≤ maxInterfaceName then []
    else
      [Log.warn
        ("interface name too long, truncating to " ++ Text.quoted (truncateName name))
        [Log.number "length" name.utf8ByteSize, Log.number "maximum" maxInterfaceName]]

end Config

namespace SessionConfig

/-- What the link is bound to. -/
def link (s : SessionConfig) : LinkConfig where
  role := s.role
  interface := s.interface
  kind := s.kind
  sap := s.linkSap
  ringFrames := s.ringFrames

/-- How frames are sent. -/
def traffic (s : SessionConfig) : TrafficOptions where
  payloadLength := s.payloadLength
  delay := s.txDelay

/-- The report of the settings at the beginning. -/
def report (s : SessionConfig) : Log.Entry :=
  Log.info "configuration"
    [("role", s.role.label), ("interface", s.interface), ("frame", s.kind.label),
      ("link_sap", "0x" ++ hexWord s.linkSap.toNat), Log.number "tx_delay_ms" s.txDelay,
      Log.number "ring_frames" (s.ringFrames.getD 0), Log.number "payload_len" s.payloadLength]

end SessionConfig

end PacketLink
