import PacketLink.Host.Calls
import PacketLink.Link.Error
import PacketLink.Text.Quoted

/-!
# Finding an interface by name

* `Resolver`: who is asked.
* `Resolver.resolve`: the interface of a name. The system is asked for its number and then, through
  a socket made for the purpose, for its hardware address; that socket is closed in any case.
-/

namespace PacketLink

/-- The longest name of an interface in bytes. -/
def maxInterfaceName : Nat := 15

/-- Who finds interfaces. -/
inductive Resolver where
  /-- The operating system. -/
  | system
  /-- Every name stands for this interface. -/
  | fixed (interface : Interface)
  /-- No name stands for anything. -/
  | failing (cause : LinkError)

namespace Resolver

/-- The message about a name that is empty or too long. -/
def lengthMessage (name : String) : String :=
  "interface name must be 1..=" ++ toString maxInterfaceName ++ " bytes, got "
    ++ Text.quoted name

/-- The number of bytes before the first NUL in a name, if there is one. -/
def nulPosition? (name : String) : Option Nat :=
  let before := name.toList.takeWhile fun c => c.toNat ≠ 0
  if before.length < name.toList.length then some (String.ofList before).utf8ByteSize else none

/-- Why the system cannot be asked for a name. -/
def unusableName? (name : String) : Option LinkError :=
  if name.utf8ByteSize = 0 ∨ maxInterfaceName < name.utf8ByteSize then
    some (.configuration (lengthMessage name))
  else
    match nulPosition? name with
    | some position =>
      some (.configuration ("Invalid interface name: nul byte found in provided data at position: "
        ++ toString position))
    | none => none

/-- Asks for the hardware address of an interface. -/
def hardwareAddress (name : String) : Sys (Except LinkError MacAddr) := do
  match ← Host.openSocket .datagram with
  | .error e => pure (.error (.setup "SIOCGIFHWADDR probe socket" e))
  | .ok s =>
    let outcome ← Host.hardwareAddress s name
    let _ ← Host.closeSocket s
    pure (match outcome with
      | .ok mac => .ok mac
      | .error e =>
        if e = .noSuchDevice ∨ e = .noSuchAddress then .error (.interfaceNotFound name)
        else .error (.setup "SIOCGIFHWADDR" e))

/-- Why a name has no number. -/
def lookupFailure (name : String) (cause : Errno) : LinkError :=
  if cause.isPermission then .permissionDenied ("if_nametoindex(" ++ name ++ ")")
  else .interfaceNotFound name

/-- Asks the system for the interface of a name. -/
def askSystem (name : String) : Sys (Except LinkError Interface) := do
  match unusableName? name with
  | some e => pure (.error e)
  | none =>
    match ← Host.interfaceIndex name with
    | .error e => pure (.error (lookupFailure name e))
    | .ok 0 => pure (.error (.interfaceNotFound name))
    | .ok index =>
      match ← hardwareAddress name with
      | .error e => pure (.error e)
      | .ok mac => pure (.ok { name, index, mac })

/-- The interface of a name. -/
def resolve (resolver : Resolver) (name : String) : Sys (Except LinkError Interface) :=
  match resolver with
  | .system => askSystem name
  | .fixed interface => pure (.ok interface)
  | .failing cause => pure (.error cause)

end Resolver

end PacketLink
