import PacketLink.Program

/-!
# The program on the command line

The program runs on a model of this machine. The model has the interfaces of the machine, but no
frame reaches them; it receives a few frames of its own, and interrupts the program when that has
looked at its socket as many times.
-/

namespace PacketLink.Program

/-- The error number of a failure to read a file. -/
def errnoOf : IO.Error → Errno
  | .noFileOrDirectory .. => .noSuchFile
  | .permissionDenied .. => .accessDenied
  | .inappropriateType _ code _ => ⟨code.toNat⟩
  | _ => .deviceFailure

/-- What is in a file. -/
def contentOf (path : String) : IO (Except Errno Bytes) := do
  try
    pure (.ok (← IO.FS.readBinFile path).toList)
  catch e => pure (.error (errnoOf e))

/-- The text of a file that may be missing, without blanks around it. -/
def textOf (path : String) : IO String := do
  match ← contentOf path with
  | .ok bytes => pure ((Config.decodeText bytes).getD "").trimAscii.toString
  | .error _ => pure ""

/-- The interface of a name. -/
def interfaceOf (name : String) : IO Interface := do
  let directory := "/sys/class/net/" ++ name
  let index ← textOf (directory ++ "/ifindex")
  let mac ← textOf (directory ++ "/address")
  pure ⟨name, index.toNat?.getD 0, (MacAddr.parse? mac).getD .zero⟩

/-- The interfaces of this machine. -/
def interfaces : IO (List Interface) := do
  let table ← textOf "/proc/net/dev"
  let names := (table.splitOn "\n").filterMap fun row =>
    match row.splitOn ":" with
    | name :: _ :: _ => some name.trimAscii.toString
    | _ => none
  names.mapM interfaceOf

/-- How many frames the model receives. -/
def frameCount : Nat := 10

/-- More turns than the event loop takes until the model of this machine interrupts the program: in
each of them it looks at the socket, or waits. -/
def turnCount : Nat := 100 * frameCount

/-- How the model of this machine behaves. -/
def script : IO Host.Script := do
  pure {
    interfaces := ← interfaces
    inbound := List.replicate frameCount (.whole (List.replicate 60 0))
    raise := some (.poll, frameCount - 1, .interrupt) }

/-- The content of the file that the arguments name. -/
def settingsFile (arguments : List String) : IO (Except Errno Bytes) :=
  match (CommandLine.parse arguments).toOption.bind CommandLine.file with
  | some path => contentOf path
  | none => pure (.error .noSuchFile)

end PacketLink.Program

open PacketLink

/-- Runs the program and shows its log and its output. -/
def main (arguments : List String) : IO UInt32 := do
  let content ← Program.settingsFile arguments
  let host := Host.ofScript (← Program.script)
  let (outcome, host) := Program.run Program.turnCount (fun _ => content) arguments host
  for line in outcome.output do IO.println line
  for line in outcome.complaint do IO.eprintln line
  for entry in host.taken.2 do IO.eprintln entry.line
  pure outcome.exitCode.toUInt32
