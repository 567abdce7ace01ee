import PacketLink.CommandLine.Parameter

/-!
# The help

* `helpLines`: what the program does, and its parameters, one a line.
* `versionLine`: the name of the program and its version.
-/

namespace PacketLink.CommandLine

/-- The name of the program. -/
def programName : String := "linklayertool"

/-- The version of the program. -/
def programVersion : String := "0.2.0"

/-- The line that shows the version. -/
def versionLine : String := programName ++ " " ++ programVersion

/-- The line that shows how the program is called. -/
def usageLine : String := "Usage: " ++ programName ++ " [OPTIONS]"

/-- How a parameter is written, with its letter if it has one. -/
def Spelling.heading (s : Spelling) : String :=
  (match s.letter with
    | some c => String.ofList ['-', c, ',', ' ']
    | none => "    ")
    ++ s.parameter.shown

/-- The width of the column of headings. -/
def headingWidth : Nat := (spellings.map fun s => s.heading.length).foldl max 0

/-- The line of a parameter. -/
def Spelling.line (s : Spelling) : String :=
  let gap := headingWidth - s.heading.length + 2
  "  " ++ s.heading ++ String.ofList (List.replicate gap ' ') ++ s.purpose

/-- The help. -/
def helpLines : List String :=
  [programName ++ " - raw link-layer frame transmitter and receiver", "", usageLine, "",
    "Options:"] ++ spellings.map Spelling.line

end PacketLink.CommandLine
