import PacketLink.MacAddr

/-!
# Interfaces and link-layer addresses

* `Interface`: a network interface: its name, its number and its hardware address.
* `LinkAddress`: where a socket is bound or a frame is sent; `LinkAddress.encode` is the form in
  which the kernel takes it.
-/

namespace PacketLink

/-- A network interface. -/
structure Interface where
  name : String
  index : Nat
  mac : MacAddr
deriving DecidableEq

/-- An interface and protocol to bind to, or the destination of a frame. -/
structure LinkAddress where
  interfaceIndex : Nat
  protocol : Nat
  dest : MacAddr
deriving DecidableEq

namespace LinkAddress

/-- The protocol number that stands for every protocol. -/
def allProtocols : Nat := 3

/-- The twenty bytes of the address as the kernel reads them: family, protocol, interface, two
fields that are not used, the length of the hardware address, and eight bytes that hold it. -/
def encode (a : LinkAddress) : Bytes :=
  Bytes.littleEndian 2 17 ++ Bytes.bigEndian 2 a.protocol ++ Bytes.littleEndian 4 a.interfaceIndex
    ++ Bytes.littleEndian 2 0 ++ [0, 6] ++ a.dest.octets ++ [0, 0]

end LinkAddress

end PacketLink
