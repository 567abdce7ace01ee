import PacketLink.Host.Calls
import PacketLink.Link.Error

/-!
# Packet sockets

* `PacketSocket`: a raw link-layer socket whose calls return at once.
* `PacketSocket.open?` makes one; if it cannot be put into that mode, it is closed again.
* `PacketSocket.receive`, `send`, `flush`, `statistics`: frames and counters.
* `PacketSocket.close` reports how closing went, `discard` does not.
-/

namespace PacketLink

/-- A raw link-layer socket. -/
structure PacketSocket where
  id : Host.SocketId
deriving DecidableEq, Repr

/-- What is known of a frame that was put into a buffer. -/
structure Received where
  /-- The number of its bytes that the buffer took. -/
  captured : Nat
  /-- The length on the wire. -/
  wireLength : Nat
deriving DecidableEq, Repr

namespace PacketSocket

open Host (Outcome)

/-- Closes the socket without asking how that went. -/
def discard (s : PacketSocket) : Sys Unit := do
  let _ ← Host.closeSocket s.id

/-- Makes a socket. It receives nothing until it is bound. -/
def open? : Sys (Except LinkError PacketSocket) := do
  match ← Host.openSocket .packet with
  | .error e => pure (.error (.setup "socket" e))
  | .ok id =>
    let s : PacketSocket := ⟨id⟩
    match ← Host.setNonblocking id with
    | .error e =>
      s.discard
      pure (.error (.setup "set_nonblocking" e))
    | .ok () => pure (.ok s)

/-- Binds the socket to an interface and a protocol. -/
def bind (s : PacketSocket) (interfaceIndex protocol : Nat) : Sys (Outcome Unit) :=
  Host.bind s.id { interfaceIndex, protocol, dest := .zero }

/-- The number of the option that joins a group of receivers. -/
def membershipOption : Nat := 1

/-- What the option takes to receive every frame on an interface. -/
def promiscuousRequest (interfaceIndex : Nat) : Bytes :=
  Bytes.littleEndian 4 interfaceIndex ++ Bytes.littleEndian 2 1 ++ Bytes.littleEndian 2 0
    ++ List.replicate 8 0

/-- Makes the socket receive frames to every address. -/
def joinPromiscuous (s : PacketSocket) (interfaceIndex : Nat) : Sys (Outcome Unit) :=
  Host.setOption s.id membershipOption (promiscuousRequest interfaceIndex)

/-- Puts the next frame into a buffer, over what is there. A frame longer than the buffer is cut,
and what is behind a shorter one stays. -/
def receive (s : PacketSocket) (buffer : Bytes) : Sys (Outcome Received × Bytes) := do
  match ← Host.receive s.id buffer.length with
  | .error e => pure (.error e, buffer)
  | .ok (data, wireLength) =>
    pure (.ok ⟨min wireLength buffer.length, wireLength⟩, SlotMemory.overlay buffer 0 data)

/-- Sends a frame and tells how many of its bytes were accepted. -/
def send (s : PacketSocket) (frame : Bytes) (dest : LinkAddress) : Sys (Outcome Nat) :=
  Host.sendTo s.id frame dest

/-- Closes the socket. -/
def close (s : PacketSocket) : Sys (Outcome Unit) := Host.closeSocket s.id

end PacketSocket

end PacketLink
