import PacketLink.Frame.Error
import PacketLink.Host.Errno
import PacketLink.Link.State

/-!
# Why a link operation fails

* `LinkError`: the causes.
* `LinkError.message`: their wording. The wording of a frame error is passed on as it is, and the
  failures of a disposal are listed.
* `LinkError.isResource`: whether a descriptor or ring is lost. All other failures concern one
  frame only.
* `LinkError.source`: the error number behind a failure of the operating system.
-/

namespace PacketLink

/-- Why a link operation fails. -/
inductive LinkError where
  /-- A setting is not usable. -/
  | configuration (text : String)
  /-- An interface name is not known. -/
  | interfaceNotFound (name : String)
  /-- The privilege for an operation is missing. -/
  | permissionDenied (operation : String)
  /-- A socket, ring or mapping could not be set up or given back. -/
  | resource (operation : String) (cause : Errno)
  /-- Something that should exist was never made. -/
  | resourceUnavailable (text : String)
  /-- A frame could not be sent or received. -/
  | transport (operation : String) (cause : Errno)
  /-- Fewer bytes were accepted than the frame holds. -/
  | shortSend (written requested : Nat)
  /-- A ring slot holds only a part of a frame. -/
  | partialDelivery (index captured wireLength : Nat)
  /-- The rules for handing slots over were not kept. -/
  | ringProtocol (text : String)
  /-- A frame could not be built or read. -/
  | frame (cause : FrameError)
  /-- The operation is not allowed in this state. -/
  | invalidState (operation : String) (state : LinkState)
  /-- Steps of a disposal failed. -/
  | teardown (failures : List LinkError)

namespace LinkError

/-- Texts with a semicolon and a blank between neighbours. -/
def joined (texts : List String) : String := "; ".intercalate texts

/-- The wording of a failure. -/
def message : LinkError → String
  | .configuration text => "Invalid configuration: " ++ text
  | .interfaceNotFound name => "Interface not found: " ++ name
  | .permissionDenied operation =>
    "Permission denied during " ++ operation ++ " (CAP_NET_RAW required)"
  | .resource operation cause => "Resource error during " ++ operation ++ ": " ++ cause.message
  | .resourceUnavailable text => "Resource unavailable: " ++ text
  | .transport operation cause => "Transport error during " ++ operation ++ ": " ++ cause.message
  | .shortSend written requested =>
    "Short send: wrote " ++ toString written ++ " of " ++ toString requested ++ " bytes"
  | .partialDelivery index captured wireLength =>
    "Ring slot " ++ toString index ++ " holds a partial frame: " ++ toString captured ++ " of "
      ++ toString wireLength ++ " bytes"
  | .ringProtocol text => "Ring protocol violation: " ++ text
  | .frame cause => cause.message
  | .invalidState operation state =>
    "Cannot " ++ operation ++ " a socket in state " ++ state.title
  | .teardown failures => "Teardown failed: " ++ joined (failures.map message)

/-- The failure of a setup step, which missing privileges explain better than their number. -/
def setup (operation : String) (cause : Errno) : LinkError :=
  if cause.isPermission then .permissionDenied operation else .resource operation cause

/-- Whether the descriptor or ring cannot be used any more. -/
def isResource : LinkError → Bool
  | .resource .. | .resourceUnavailable _ | .ringProtocol _ | .invalidState .. | .teardown _ => true
  | _ => false

/-- The error number behind a failure of the operating system. -/
def source : LinkError → Option Errno
  | .resource _ cause | .transport _ cause => some cause
  | _ => none

end LinkError

end PacketLink
