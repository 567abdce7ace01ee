/-!
# Roles and states of a link

* `Role`: whether a link sends or receives.
* `LinkState`: where a link stands between creation and disposal.
-/

namespace PacketLink

/-- What a link is for. -/
inductive Role where
  | transmitter
  | receiver
deriving DecidableEq, Repr

/-- The name of a role. -/
def Role.label : Role → String
  | .transmitter => "transmitter"
  | .receiver => "receiver"

/-- Where a link stands. -/
inductive LinkState where
  /-- Nothing has been opened yet. -/
  | undefined
  /-- The descriptors are open. -/
  | ready
  /-- The descriptors are bound to the interface. -/
  | bound
  /-- Frames may flow. -/
  | running
  /-- Frames are held back. -/
  | paused
  /-- Everything has been given back. -/
  | closed
  /-- Opening or binding failed; only closing is left. -/
  | failed
deriving DecidableEq, Repr

namespace LinkState

/-- The states in the order in which a link goes through them. -/
def all : List LinkState := [.undefined, .ready, .bound, .running, .paused, .closed, .failed]

/-- The name of a state. -/
def label : LinkState → String
  | .undefined => "undefined"
  | .ready => "ready"
  | .bound => "bound"
  | .running => "running"
  | .paused => "paused"
  | .closed => "closed"
  | .failed => "failed"

/-- The name of a state inside a message about it. -/
def title : LinkState → String
  | .undefined => "Undefined"
  | .ready => "Ready"
  | .bound => "Bound"
  | .running => "Running"
  | .paused => "Paused"
  | .closed => "Closed"
  | .failed => "Failed"

end LinkState

end PacketLink
