import PacketLink.CommandLine.Error
import PacketLink.CommandLine.Sap
import PacketLink.Config.File

/-!
# What a command line says

* `CommandLine`: the parameters given.
* `CommandLine.give`: gives a setting its value. A setting has at most one.
* `CommandLine.check`: the parameters that do not go together.
* `CommandLine.config`: the settings in the file, if there is one, overlaid by the parameters.
-/

namespace PacketLink

/-- The parameters given on a command line. -/
structure CommandLine where
  verbose : Bool := false
  debug : Bool := false
  receive : Bool := false
  ring : Bool := false
  /-- The path of the file with settings. -/
  file : Option String := none
  /-- The pause between sent frames, in milliseconds. -/
  transmit : Option Nat := none
  linkSap : Option Nat := none
  interface : Option String := none
  frame : Option FrameKind := none
  ringFrames : Option Nat := none
  payloadLength : Option Nat := none
deriving DecidableEq, Repr

namespace CommandLine

/-! ## Values -/

/-- A number of 64 bits. -/
def readCount (text : String) : Except String Nat :=
  (Text.readUnsigned 10 Config.word64 text.toList).mapError Text.NumeralError.message

/-- The size of the least number of 64 bits with a sign. -/
def signedLimit : Nat := 0x8000000000000000

/-- A number of 32 bits, which may have a sign as long as it is not negative. -/
def readSize (text : String) : Except String Nat :=
  match Text.readSigned 10 signedLimit (signedLimit - 1) text.toList with
  | .error e => .error e.message
  | .ok n =>
    if 0 ≤ n ∧ n ≤ maxWord then .ok n.toNat
    else .error (toString n ++ " is not in 0..=" ++ toString maxWord)

/-- A kind of frames. -/
def readKind (text : String) : Except String FrameKind :=
  match FrameKind.parse? text with
  | some kind => .ok kind
  | none => .error (FrameKind.parseErrorMessage text)

/-- Whether a setting has a value. -/
def has (line : CommandLine) : Setting → Bool
  | .config => line.file.isSome
  | .transmit => line.transmit.isSome
  | .linkSap => line.linkSap.isSome
  | .interface => line.interface.isSome
  | .frame => line.frame.isSome
  | .ringFrames => line.ringFrames.isSome
  | .payloadLength => line.payloadLength.isSome

/-- The parameters with a setting read from a text, or why it cannot be read. -/
def assign (line : CommandLine) (s : Setting) (text : String) : Except String CommandLine :=
  match s with
  | .config => pure { line with file := some text }
  | .transmit => do
    let n ← readCount text
    pure { line with transmit := some n }
  | .linkSap => do
    let n ← (parseSap text).mapError (sapMessage text)
    pure { line with linkSap := some n }
  | .interface => pure { line with interface := some text }
  | .frame => do
    let kind ← readKind text
    pure { line with frame := some kind }
  | .ringFrames => do
    let n ← readSize text
    pure { line with ringFrames := some n }
  | .payloadLength => do
    let n ← readCount text
    pure { line with payloadLength := some n }

/-- Gives a setting its value. An empty path is no value. -/
def give (line : CommandLine) (s : Setting) (value : Option String) :
    Except UsageError CommandLine :=
  match value with
  | none => .error (.missingValue s)
  | some text =>
    if line.has s then .error (.repeated (.setting s))
    else if s = .config ∧ text = "" then .error (.missingValue s)
    else (line.assign s text).mapError (.unreadableValue s text)

/-- Whether a switch is on. The help and the version are never on: they end the reading. -/
def isOn (line : CommandLine) : Switch → Bool
  | .verbose => line.verbose
  | .debug => line.debug
  | .receive => line.receive
  | .ring => line.ring
  | .help | .version => false

/-- Turns a switch on, unless it is on. -/
def turnOn (line : CommandLine) (s : Switch) : Except Halt CommandLine :=
  if line.isOn s then .error (.refused (.repeated (.switch s)))
  else
    match s with
    | .verbose => .ok { line with verbose := true }
    | .debug => .ok { line with debug := true }
    | .receive => .ok { line with receive := true }
    | .ring => .ok { line with ring := true }
    | .help => .error .help
    | .version => .error .version

/-- Refuses parameters that do not go together. -/
def check (line : CommandLine) : Except UsageError CommandLine :=
  if line.transmit.isSome ∧ line.receive then
    .error (.exclusive (.setting .transmit) (.switch .receive))
  else if line.ringFrames.isSome ∧ !line.ring then .error (.missingParameter (.switch .ring))
  else .ok line

/-! ## Settings -/

/-- The mode that the parameters ask for. -/
def mode (line : CommandLine) : Option Mode :=
  if line.transmit.isSome then some .transmit
  else if line.receive then some .receive
  else none

/-- The settings among the parameters. -/
def overrides (line : CommandLine) : Config where
  mode := line.mode
  txDelay := line.transmit
  linkSap := line.linkSap
  interface := line.interface
  frame := line.frame
  ring := if line.ring then some true else none
  ringFrames := line.ringFrames
  payloadLength := line.payloadLength

/-- The settings in the file, if one is named, overlaid by the parameters. -/
def config (line : CommandLine) (contentOf : String → Except Errno Bytes) :
    Except ConfigError Config := do
  let base ← match line.file with
    | some path => Config.read path (contentOf path)
    | none => pure {}
  pure (base.overlay line.overrides)

end CommandLine

end PacketLink
