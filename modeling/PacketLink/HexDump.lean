import PacketLink.MacAddr

/-!
# Hexadecimal dumps

* `hexDump`: a byte string as lines of up to eight colon-separated pairs of digits, each line
  with the same indent before it and a line feed after it. No bytes give no lines.
-/

namespace PacketLink

/-- How many bytes a line of a dump holds at most. -/
def bytesPerLine : Nat := 8

/-- The lines of a dump: eight bytes a line, the last line what is left. -/
def dumpLines (indent : List Char) (bytes : Bytes) : List Char :=
  match bytes with
  | [] => []
  | b :: rest =>
    indent ++ MacAddr.colonHex ((b :: rest).take bytesPerLine)
      ++ '\n' :: dumpLines indent ((b :: rest).drop bytesPerLine)
termination_by bytes.length
decreasing_by rw [List.length_drop, List.length_cons, bytesPerLine]; omega

/-- A byte string as indented lines of hexadecimal digits. -/
def hexDump (indent : String) (bytes : Bytes) : String :=
  String.ofList (dumpLines indent.toList bytes)

end PacketLink
