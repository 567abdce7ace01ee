import PacketLink.Text.Quoted

/-!
# Kinds of link-layer frames

* `FrameKind`: raw buffers, IEEE 802.3 frames and IEEE 802.11 frames reduced to their addresses.
* `headerLength`, `maxPayload`, `maxLength`: the fixed sizes of each kind in bytes.
* `FrameKind.parse?`: the kind that a name on a command line stands for.
-/

namespace PacketLink

/-- The framing of what a link carries. -/
inductive FrameKind where
  /-- A buffer without a header. -/
  | raw
  /-- IEEE 802.3, also known as Ethernet II. -/
  | ieee8023
  /-- IEEE 802.11, reduced to the addresses. -/
  | ieee80211
deriving DecidableEq, Repr

namespace FrameKind

/-- The length of the fixed header. -/
def headerLength : FrameKind → Nat
  | .raw => 0
  | .ieee8023 => 14
  | .ieee80211 => 12

/-- The longest payload that a frame of the kind carries. -/
def maxPayload : FrameKind → Nat
  | .raw => 4096
  | .ieee8023 => 1500
  | .ieee80211 => 2313

/-- The length of the longest frame of the kind, header included. -/
def maxLength (kind : FrameKind) : Nat := kind.headerLength + kind.maxPayload

/-- The name of the kind in descriptions and messages. -/
def label : FrameKind → String
  | .raw => "raw"
  | .ieee8023 => "IEEE 802.3"
  | .ieee80211 => "IEEE 802.11"

/-- The name of the kind in settings. -/
def name : FrameKind → String
  | .raw => "raw"
  | .ieee8023 => "ieee8023"
  | .ieee80211 => "ieee80211"

/-- The names that `parse?` knows, in lower case. -/
def ofLowerName? : String → Option FrameKind
  | "raw" | "buffer" => some .raw
  | "ieee8023" | "8023" | "ethernet" => some .ieee8023
  | "ieee80211" | "80211" | "wifi" => some .ieee80211
  | _ => none

/-- The kind that a name stands for; ASCII letters count in either case. -/
def parse? (s : String) : Option FrameKind :=
  ofLowerName? (String.ofList (s.toList.map Char.toLower))

/-- The message about a name that stands for no kind. -/
def parseErrorMessage (s : String) : String :=
  "unknown frame kind " ++ Text.quoted s ++ " (expected ieee8023, ieee80211 or raw)"

end FrameKind

end PacketLink
