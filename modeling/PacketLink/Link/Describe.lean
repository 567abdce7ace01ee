import PacketLink.Link.Socket

/-!
# Links as text for inspection

* `LinkSocket.inspect`: a link with all its parts.
* `Worker.inspect`: a worker as the event loop watches it, with the descriptor left out.
-/

namespace PacketLink

/-- A name with named parts between braces. -/
def inspectRecord (name : String) (parts : List (String × String)) : String :=
  name ++ " \x7b " ++ ", ".intercalate (parts.map fun (key, value) => key ++ ": " ++ value)
    ++ " \x7d"

/-- A part that may be missing. -/
def inspectOption : Option String → String
  | some text => "Some(" ++ text ++ ")"
  | none => "None"

/-- The name of a role for inspection. -/
def Role.title : Role → String
  | .transmitter => "Transmitter"
  | .receiver => "Receiver"

/-- The name of a kind of frame for inspection. -/
def FrameKind.title : FrameKind → String
  | .raw => "Raw"
  | .ieee8023 => "Ieee8023"
  | .ieee80211 => "Ieee80211"

/-- An interface for inspection. -/
def Interface.inspect (i : Interface) : String :=
  inspectRecord "InterfaceIdentity"
    [("name", Text.quoted i.name), ("index", toString i.index), ("mac", i.mac.toDebugText)]

/-- The configuration of a link for inspection. -/
def LinkConfig.inspect (c : LinkConfig) : String :=
  inspectRecord "LinkConfig"
    [("role", c.role.title), ("interface", Text.quoted c.interface),
      ("frame_kind", c.kind.title), ("link_sap", toString c.sap.toNat),
      ("ring_frames", inspectOption (c.ringFrames.map toString))]

/-- The name of a transport for inspection. -/
def Transport.title : Transport → String
  | .unopened => "unopened"
  | .direct _ => "direct"
  | .rings .. => "ring"

/-- A link for inspection. -/
def LinkSocket.inspect (l : LinkSocket) : String :=
  inspectRecord "LinkSocket"
    [("config", l.config.inspect), ("state", l.state.title),
      ("identity", inspectOption (l.identity.map Interface.inspect)),
      ("transport", Text.quoted l.transport.title)]

/-- A worker that has not been called yet, for inspection. -/
def Worker.inspect (w : Worker) : String :=
  inspectRecord "Watcher"
    [("label", Text.quoted w.label), ("fd", "N"), ("readiness", w.readiness.label),
      ("armed", "false"), ("paused", "false")]

end PacketLink
