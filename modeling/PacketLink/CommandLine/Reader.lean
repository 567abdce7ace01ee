import PacketLink.CommandLine.Basic

/-!
# Reading a command line

* `Shape`: what an argument looks like, whatever it means.
* `Reader`: the parameters read so far, and the setting that was named last. Its value is looked at
  only when the next parameter is met, so an argument that is unknown is refused before a value
  that cannot be read.
* `CommandLine.parse`: reads the arguments from the left.
-/

namespace PacketLink.CommandLine

/-! ## Arguments -/

/-- What an argument looks like. -/
inductive Shape where
  /-- Two dashes, after which nothing is a parameter. -/
  | separator
  /-- A word after two dashes, perhaps with a value after an equals sign. -/
  | long (word : String) (value : Option String)
  /-- Letters after one dash. -/
  | letters (cs : List Char)
  | plain (text : String)
deriving DecidableEq, Repr

/-- A word, and the value after the first equals sign. -/
def splitValue (cs : List Char) : String × Option String :=
  let isWord (c : Char) : Bool := c ≠ '='
  (String.ofList (cs.takeWhile isWord),
    match cs.dropWhile isWord with
    | [] => none
    | _ :: value => some (String.ofList value))

/-- The shape of an argument. -/
def Shape.of (argument : String) : Shape :=
  match argument.toList with
  | ['-', '-'] => .separator
  | '-' :: '-' :: cs =>
    let (word, value) := splitValue cs
    .long word value
  | '-' :: c :: cs => .letters (c :: cs)
  | _ => .plain argument

/-! ## Reading -/

/-- A command line that is being read. -/
structure Reader where
  line : CommandLine := {}
  /-- The setting that was named last, if its value has not been looked at, and its value, if it
  has come. -/
  pending : Option (Setting × Option String) := none

namespace Reader

/-- Reads the value of the setting that was named last. -/
def settle (r : Reader) : Except UsageError CommandLine :=
  match r.pending with
  | none => .ok r.line
  | some (s, value) => r.line.give s value

/-- Reads a setting whose value is attached to it. -/
def attach (r : Reader) (s : Setting) (value : String) : Except UsageError Reader := do
  let line ← r.settle
  pure { line := ← line.give s (some value) }

/-- Waits for the value of a setting. -/
def await (r : Reader) (s : Setting) : Except UsageError Reader := do
  pure { line := ← r.settle, pending := some (s, none) }

/-- Reads a switch. -/
def turnOn (r : Reader) (s : Switch) : Except Halt Reader := do
  let line ← r.settle.mapError .refused
  pure { line := ← line.turnOn s }

/-- Reads letters. The first setting takes what follows its letter, less one equals sign, as its
value. -/
def readLetters (r : Reader) : List Char → Except Halt Reader
  | [] => .ok r
  | c :: rest =>
    match Parameter.ofLetter? c, rest with
    | none, _ => .error (.refused (.unknownArgument (String.ofList ['-', c])))
    | some (.switch s), rest => do (← r.turnOn s).readLetters rest
    | some (.setting s), [] => (r.await s).mapError .refused
    | some (.setting s), '=' :: value | some (.setting s), value =>
      (r.attach s (String.ofList value)).mapError .refused

/-- Reads a word. -/
def readWord (r : Reader) (word : String) (value : Option String) : Except Halt Reader :=
  match Parameter.ofWord? word, value with
  | none, _ => .error (.refused (.unknownArgument ("--" ++ word)))
  | some (.switch s), none => r.turnOn s
  | some (.switch s), some value => .error (.refused (.unexpectedValue s value))
  | some (.setting s), none => (r.await s).mapError .refused
  | some (.setting s), some value => (r.attach s value).mapError .refused

/-- Reads an argument that is no parameter. It can only be a value that is waited for. -/
def readPlain (r : Reader) (text : String) : Except Halt Reader :=
  match r.pending with
  | some (s, none) => .ok { r with pending := some (s, some text) }
  | _ => .error (.refused (.unknownArgument text))

/-- Reads the arguments after the separator, of which there must be none. -/
def readRest (r : Reader) : List String → Except Halt Reader
  | [] => .ok r
  | text :: _ => .error (.refused (.unknownArgument text))

/-- Reads arguments. -/
def readAll (r : Reader) : List String → Except Halt Reader
  | [] => .ok r
  | argument :: rest =>
    match Shape.of argument with
    | .separator => r.readRest rest
    | .long word value => do (← r.readWord word value).readAll rest
    | .letters cs => do (← r.readLetters cs).readAll rest
    | .plain text => do (← r.readPlain text).readAll rest

end Reader

/-- The parameters in arguments. -/
def parse (arguments : List String) : Except Halt CommandLine := do
  let r ← Reader.readAll {} arguments
  (r.settle.bind check).mapError .refused

end PacketLink.CommandLine
