import PacketLink.Frame.Codec
import PacketLink.HexDump

/-!
# Frames as text

* `Frame.describe`: every field of a frame on a line of its own, then a dump of the payload. The
  text depends on the frame alone.
-/

namespace PacketLink

/-- Sixteen bits as four upper-case hexadecimal digits. -/
def hexWord (n : Nat) : String := String.ofList ((Bytes.bigEndian 2 n).flatMap Bytes.hexByte)

namespace Frame

/-- The line of an address field; `name` is padded to the width of the field names. -/
def addressLine (name : String) (mac : MacAddr) : String := "  " ++ name ++ mac.toText ++ "\n"

/-- The lines of the header fields. -/
def headerLines (f : Frame) : String :=
  match f.header with
  | .raw => ""
  | .ieee8023 dest src ethertype =>
    addressLine "dest      " dest ++ addressLine "src       " src
      ++ "  ethertype 0x" ++ hexWord ethertype.toNat
      ++ (if f.lengthField.isSome then " (length)" else "") ++ "\n"
  | .ieee80211 dest src => addressLine "dest      " dest ++ addressLine "src       " src

/-- The line that a capture of a part of the frame gets. -/
def capturedLine (f : Frame) : String :=
  if f.isPartial then
    "  captured  " ++ toString f.length ++ " of " ++ toString f.wireLength ++ " bytes\n"
  else ""

/-- The line of the payload's length, which a frame without a header does not need. -/
def payloadLine (f : Frame) : String :=
  match f.header.kind with
  | .raw => ""
  | _ => "  payload   " ++ toString f.payload.length ++ " bytes\n"

/-- The frame as text. -/
def describe (f : Frame) : String :=
  f.header.kind.label ++ " frame, " ++ toString f.length ++ " bytes\n"
    ++ f.headerLines ++ f.capturedLine ++ f.payloadLine ++ hexDump "    " f.payload

end Frame

end PacketLink
