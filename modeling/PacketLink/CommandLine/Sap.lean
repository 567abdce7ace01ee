import PacketLink.Text.Numeral
import PacketLink.Text.Quoted

/-!
# Protocol numbers on the command line

* `parseSap`: a protocol number of 32 bits, decimal, or hexadecimal after `0x`.
-/

namespace PacketLink.CommandLine

/-- The largest number of 32 bits. -/
def maxWord : Nat := 0xFFFFFFFF

/-- The protocol number that a text stands for. -/
def parseSap (s : String) : Except Text.NumeralError Nat :=
  match s.toList with
  | '0' :: 'x' :: digits | '0' :: 'X' :: digits => Text.readUnsigned 16 maxWord digits
  | digits => Text.readUnsigned 10 maxWord digits

/-- The message about a text that is no protocol number. -/
def sapMessage (s : String) (cause : Text.NumeralError) : String :=
  "invalid SAP " ++ Text.quoted s ++ ": " ++ cause.message

end PacketLink.CommandLine
