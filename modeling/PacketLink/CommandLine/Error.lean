import PacketLink.CommandLine.Parameter

/-!
# What is wrong with a command line

* `UsageError`: why a command line is refused.
* `Halt`: why there are no parameters to go on with: that, or a wish for the help or the version.
-/

namespace PacketLink.CommandLine

/-- Why a command line is refused. -/
inductive UsageError where
  /-- An argument is not the name of a parameter, nor the value of one. -/
  | unknownArgument (argument : String)
  /-- A setting has no value. -/
  | missingValue (s : Setting)
  /-- A value does not stand for anything. -/
  | unreadableValue (s : Setting) (value reason : String)
  /-- A parameter is given twice. -/
  | repeated (p : Parameter)
  /-- Two parameters exclude each other. -/
  | exclusive (p q : Parameter)
  /-- A parameter needs another one. -/
  | missingParameter (p : Parameter)
  /-- A switch has a value. -/
  | unexpectedValue (s : Switch) (value : String)
deriving DecidableEq, Repr

/-- The wording of a usage error. -/
def UsageError.message : UsageError → String
  | .unknownArgument argument => "unexpected argument '" ++ argument ++ "' found"
  | .missingValue s =>
    "a value is required for '" ++ (Parameter.setting s).shown ++ "' but none was supplied"
  | .unreadableValue s value reason =>
    "invalid value '" ++ value ++ "' for '" ++ (Parameter.setting s).shown ++ "': " ++ reason
  | .repeated p => "the argument '" ++ p.shown ++ "' cannot be used multiple times"
  | .exclusive p q => "the argument '" ++ p.shown ++ "' cannot be used with '" ++ q.shown ++ "'"
  | .missingParameter p =>
    "the following required arguments were not provided:\n  " ++ p.shown
  | .unexpectedValue s value =>
    "unexpected value '" ++ value ++ "' for '" ++ (Parameter.switch s).shown
      ++ "' found; no more were expected"

/-- Why there are no parameters to go on with. -/
inductive Halt where
  | help
  | version
  | refused (cause : UsageError)
deriving DecidableEq, Repr

end PacketLink.CommandLine
