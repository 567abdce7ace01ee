import PacketLink.Frame.Kind

/-!
# Settings

* `Config`: settings from one place, each of which may be missing.
* `Config.overlay`: settings from two places, of which the upper one wins.
-/

namespace PacketLink

/-- Whether the program sends or receives. -/
inductive Mode where
  | transmit
  | receive
deriving DecidableEq, Repr

/-- Settings that have not been checked. -/
structure Config where
  mode : Option Mode := none
  /-- The pause between sent frames, in milliseconds. -/
  txDelay : Option Nat := none
  /-- The protocol, which is also the ethertype of sent frames. -/
  linkSap : Option Nat := none
  interface : Option String := none
  frame : Option FrameKind := none
  /-- Whether frames pass through rings. -/
  ring : Option Bool := none
  /-- The number of slots of a ring. -/
  ringFrames : Option Nat := none
  /-- The number of payload bytes of a sent frame. -/
  payloadLength : Option Nat := none
deriving DecidableEq, Repr

namespace Config

/-- The settings of `top`, and those of `base` where `top` has none. -/
def overlay (base top : Config) : Config where
  mode := top.mode.or base.mode
  txDelay := top.txDelay.or base.txDelay
  linkSap := top.linkSap.or base.linkSap
  interface := top.interface.or base.interface
  frame := top.frame.or base.frame
  ring := top.ring.or base.ring
  ringFrames := top.ringFrames.or base.ringFrames
  payloadLength := top.payloadLength.or base.payloadLength

end Config

end PacketLink
