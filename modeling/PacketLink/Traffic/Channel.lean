import PacketLink.Ring.Basic

/-!
# Channels

* `Channel`: where frames pass between the program and the kernel.
-/

namespace PacketLink

/-- A socket, or a ring shared with the kernel. -/
inductive Channel where
  | socket (s : PacketSocket)
  | ring (r : Ring)

end PacketLink
