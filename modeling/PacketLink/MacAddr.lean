import PacketLink.Bytes
import PacketLink.Text.Numeral
import PacketLink.Text.Quoted

/-!
# Hardware addresses

* `MacAddr`: six octets.
* `MacAddr.toText`: six pairs of upper-case hexadecimal digits with colons between them.
* `MacAddr.parse?`: reads six two-character parts separated by colons or hyphens. A part is a
  hexadecimal numeral, so it may open with a plus sign. `MacAddr.parse` also tells of which text
  that failed.
* `MacAddr.ofBytes?`: the first six bytes of a buffer, if it has as many.
-/

namespace PacketLink

/-- A 48-bit hardware address. -/
structure MacAddr where
  /-- The octets in transmission order. -/
  octets : Bytes
  /-- There are six of them. -/
  length_octets : octets.length = 6 := by rfl
deriving DecidableEq

namespace MacAddr

/-- The address of all stations. -/
def broadcast : MacAddr where
  octets := List.replicate 6 0xFF

/-- The address of no station. -/
def zero : MacAddr where
  octets := List.replicate 6 0

instance : Inhabited MacAddr := ⟨zero⟩

/-- The address in the first six bytes of a buffer. -/
def ofBytes? (bytes : Bytes) : Option MacAddr :=
  if h : 6 ≤ bytes.length then some ⟨bytes.take 6, List.length_take_of_le h⟩ else none

/-- The address in the first six bytes of a buffer, in which missing bytes count as zero. -/
def ofPadded (bytes : Bytes) : MacAddr :=
  ⟨(bytes ++ List.replicate 6 0).take 6, by simp⟩

/-- What follows the address does not matter. -/
@[simp] theorem ofPadded_octets_append (mac : MacAddr) (rest : Bytes) :
    ofPadded (mac.octets ++ rest) = mac := by
  cases mac with
  | mk octets h => simp [ofPadded, h]

/-- Whether this is the address of all stations. -/
def isBroadcast (mac : MacAddr) : Bool := mac = broadcast

/-- Whether the lowest bit of the first octet is set, as it is in addresses of groups. -/
def isMulticast (mac : MacAddr) : Bool := mac.octets.head?.any fun b => b.toNat.testBit 0

/-- The order of the octets as text: the first difference decides. -/
def le (a b : MacAddr) : Bool := ¬ b.octets < a.octets

/-- Pairs of digits with a colon between neighbours. -/
def colonHex : Bytes → List Char
  | [] => []
  | [b] => Bytes.hexByte b
  | b :: rest => Bytes.hexByte b ++ ':' :: colonHex rest

/-- The address as text. -/
def toText (mac : MacAddr) : String := String.ofList (colonHex mac.octets)

/-- The address as text, marked as an address. -/
def toDebugText (mac : MacAddr) : String := "MacAddr(" ++ mac.toText ++ ")"

/-- One part of an address: two characters that form a hexadecimal numeral. -/
def octet? (a b : Char) : Option UInt8 :=
  match Text.readUnsigned 16 255 [a, b] with
  | .ok n => some (UInt8.ofNat n)
  | .error _ => none

/-- Whether a character may stand between two parts of an address. -/
def isSeparator (c : Char) : Bool := c = ':' || c = '-'

/-- Reads exactly `count` separated parts. -/
def readParts : Nat → List Char → Option Bytes
  | 1, [a, b] => (octet? a b).map ([·])
  | count + 1, a :: b :: separator :: rest => do
    let first ← octet? a b
    if isSeparator separator then
      let others ← readParts count rest
      pure (first :: others)
    else none
  | _, _ => none

/-- The address that a text stands for. -/
def parse? (s : String) : Option MacAddr :=
  match readParts 6 s.toList with
  | some octets => ofBytes? octets
  | none => none

/-- The message about a text that is no address. -/
def parseErrorMessage (s : String) : String := "invalid MAC address: " ++ Text.quoted s

/-- A text that is no address. -/
structure ParseError where
  text : String
deriving DecidableEq, Repr

/-- The wording of the error. -/
def ParseError.message (e : ParseError) : String := parseErrorMessage e.text

/-- The address that a text stands for, or the text as one that is no address. -/
def parse (s : String) : Except ParseError MacAddr :=
  match parse? s with
  | some mac => .ok mac
  | none => .error ⟨s⟩

end MacAddr

end PacketLink
