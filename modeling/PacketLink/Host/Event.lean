import PacketLink.Host.Address
import PacketLink.Host.Errno

/-!
# System calls on record

* `Call`: the calls that a link makes.
* `Event`: one call with its arguments and its outcome, or a frame that the kernel took from a
  ring.
* `Event.line`: the text of an event. Sockets are numbered in the order in which they were made,
  and a failure shows as its negated error number.
-/

namespace PacketLink.Host

/-- The system calls of a link. -/
inductive Call where
  | socket | nonblock | bind | setOption | getOption | sendTo | send | receive | close
  | map | unmap | control | interfaceIndex | poll
deriving DecidableEq, Repr

/-- The name of a call. -/
def Call.name : Call → String
  | .socket => "socket"
  | .nonblock => "nonblock"
  | .bind => "bind"
  | .setOption => "setsockopt"
  | .getOption => "getsockopt"
  | .sendTo => "sendto"
  | .send => "send"
  | .receive => "recv"
  | .close => "close"
  | .map => "mmap"
  | .unmap => "munmap"
  | .control => "ioctl"
  | .interfaceIndex => "if_nametoindex"
  | .poll => "poll"

/-- All calls. -/
def Call.all : List Call :=
  [.socket, .nonblock, .bind, .setOption, .getOption, .sendTo, .send, .receive, .close, .map,
    .unmap, .control, .interfaceIndex, .poll]

/-- A socket, by its number in the order of creation. -/
structure SocketId where
  number : Nat
deriving DecidableEq, Repr

/-- The name of a socket. -/
def SocketId.name (s : SocketId) : String := "s" ++ toString s.number

/-- What sort of socket is made. -/
inductive SocketFamily where
  /-- A raw packet socket. -/
  | packet
  /-- A datagram socket that only serves to ask about interfaces. -/
  | datagram
deriving DecidableEq, Repr

/-- How a call ended. -/
abbrev Outcome := Except Errno

/-- A call with its outcome, or a frame that left through a ring. -/
inductive Event where
  | socket (family : SocketFamily) (outcome : Outcome SocketId)
  | nonblock (socket : SocketId) (outcome : Outcome Unit)
  | bind (socket : SocketId) (address : LinkAddress) (outcome : Outcome Unit)
  | setOption (socket : SocketId) (option : Nat) (value : Bytes) (outcome : Outcome Unit)
  | statistics (socket : SocketId) (outcome : Outcome Unit)
  | map (owner : Option SocketId) (length : Nat) (outcome : Outcome Unit)
  | unmap (owner : Option SocketId) (length : Nat) (outcome : Outcome Unit)
  | close (socket : SocketId) (outcome : Outcome Unit)
  | sendTo (socket : SocketId) (frame : Bytes) (address : LinkAddress) (outcome : Outcome Nat)
  | flush (socket : SocketId) (outcome : Outcome Unit)
  | transmit (socket : SocketId) (slot : Nat) (frame : Bytes)
  | receive (socket : SocketId) (length : Nat) (outcome : Outcome Nat)
  | interfaceIndex (name : String) (outcome : Outcome Nat)
  | hardwareAddress (socket : SocketId) (name : String) (outcome : Outcome Unit)

/-- The tail of an event's text: the result that `render` writes, or the failure. -/
def outcomeText (render : α → String) : Outcome α → String
  | .ok a => " = " ++ render a
  | .error e => " = -" ++ toString e.code

/-- The tail of an event's text for a call that returns nothing. -/
def statusText (outcome : Outcome Unit) : String := outcomeText (fun _ => "0") outcome

/-- The tail of an event's text for a call that returns a number. -/
def countText (outcome : Outcome Nat) : String := outcomeText toString outcome

/-- What a mapping belongs to. -/
def ownerText : Option SocketId → String
  | some s => s.name
  | none => "anon"

/-- The text of an event. -/
def Event.line : Event → String
  | .socket .packet outcome => "socket 17 3 0" ++ outcomeText SocketId.name outcome
  | .socket .datagram outcome => "socket 2 2 0" ++ outcomeText SocketId.name outcome
  | .nonblock s outcome => "nonblock " ++ s.name ++ statusText outcome
  | .bind s address outcome =>
    "bind " ++ s.name ++ " " ++ address.encode.lowerHex ++ statusText outcome
  | .setOption s option value outcome =>
    "setsockopt " ++ s.name ++ " 263 " ++ toString option ++ " " ++ value.lowerHex
      ++ statusText outcome
  | .statistics s outcome => "getsockopt " ++ s.name ++ " 263 6" ++ statusText outcome
  | .map owner length outcome =>
    "mmap " ++ ownerText owner ++ " " ++ toString length ++ " 3 "
      ++ (if owner.isSome then "32769" else "34") ++ statusText outcome
  | .unmap owner length outcome =>
    "munmap " ++ ownerText owner ++ " " ++ toString length ++ statusText outcome
  | .close s outcome => "close " ++ s.name ++ statusText outcome
  | .sendTo s frame address outcome =>
    "sendto " ++ s.name ++ " " ++ frame.lowerHex ++ " " ++ address.encode.lowerHex
      ++ countText outcome
  | .flush s outcome => "send " ++ s.name ++ " 0 64" ++ statusText outcome
  | .transmit s slot frame => "tx " ++ s.name ++ " " ++ toString slot ++ " " ++ frame.lowerHex
  | .receive s length outcome =>
    "recv " ++ s.name ++ " " ++ toString length ++ " 32" ++ countText outcome
  | .interfaceIndex name outcome => "if_nametoindex " ++ name ++ countText outcome
  | .hardwareAddress s name outcome =>
    "ioctl " ++ s.name ++ " SIOCGIFHWADDR " ++ name ++ statusText outcome

end PacketLink.Host
