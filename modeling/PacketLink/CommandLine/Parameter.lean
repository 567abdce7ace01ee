/-!
# Parameters of the command line

* `Switch`: what is there or not. `Setting`: what has a value.
* `Spelling`: how a parameter is written and what it is for.
* `spellings`: all of them, in the order of the help.
-/

namespace PacketLink.CommandLine

/-- A parameter that is there or not. -/
inductive Switch where
  | verbose
  | debug
  | receive
  | ring
  | help
  | version
deriving DecidableEq, Repr

/-- A parameter with a value. -/
inductive Setting where
  | config
  | transmit
  | linkSap
  | interface
  | frame
  | ringFrames
  | payloadLength
deriving DecidableEq, Repr

/-- What can be given on the command line. -/
inductive Parameter where
  | switch (s : Switch)
  | setting (s : Setting)
deriving DecidableEq, Repr

/-- How a parameter is written and what it is for. -/
structure Spelling where
  parameter : Parameter
  /-- The letter after one dash, if there is one. -/
  letter : Option Char
  /-- The word after two dashes. -/
  word : String
  purpose : String

/-- The parameters in the order of the help. -/
def spellings : List Spelling := [
  ⟨.switch .verbose, some 'v', "verbose", "Enable verbose output"⟩,
  ⟨.switch .debug, some 'd', "debug", "Enable debug output (implies --verbose)"⟩,
  ⟨.setting .config, some 'c', "config", "Configuration file path (TOML)"⟩,
  ⟨.setting .transmit, some 't', "tx",
    "Transmit one test frame every DELAY_MS milliseconds (1..=1000)"⟩,
  ⟨.switch .receive, some 'r', "rx", "Receive and decode frames"⟩,
  ⟨.setting .linkSap, some 'l', "lsap", "Link SAP / ethertype, decimal or 0x-prefixed hex"⟩,
  ⟨.setting .interface, some 'i', "if", "Interface name"⟩,
  ⟨.setting .frame, some 'f', "frame", "Frame kind: ieee8023, ieee80211 or raw"⟩,
  ⟨.switch .ring, none, "ring", "Exchange frames through PACKET_MMAP rings"⟩,
  ⟨.setting .ringFrames, none, "ring-frames", "Slots per ring, a power of two"⟩,
  ⟨.setting .payloadLength, none, "payload-len",
    "Payload bytes per transmitted frame (default 10, at least 14 for raw)"⟩,
  ⟨.switch .help, some 'h', "help", "Print help"⟩,
  ⟨.switch .version, some 'V', "version", "Print version"⟩]

/-- What stands for the value of a setting in the help and in messages. -/
def Setting.placeholder : Setting → String
  | .config => "FILE"
  | .transmit => "DELAY_MS"
  | .linkSap => "SAP"
  | .interface => "NAME"
  | .frame => "KIND"
  | .ringFrames => "FRAMES"
  | .payloadLength => "BYTES"

namespace Parameter

/-- The parameter of a letter. -/
def ofLetter? (c : Char) : Option Parameter :=
  (spellings.find? fun s => s.letter = some c).map Spelling.parameter

/-- The parameter of a word. -/
def ofWord? (word : String) : Option Parameter :=
  (spellings.find? fun s => s.word = word).map Spelling.parameter

/-- The word of a parameter. -/
def word (p : Parameter) : String :=
  ((spellings.find? fun s => s.parameter = p).map Spelling.word).getD ""

/-- A parameter as the help and messages show it. -/
def shown (p : Parameter) : String :=
  match p with
  | .switch _ => "--" ++ p.word
  | .setting s => "--" ++ p.word ++ " <" ++ s.placeholder ++ ">"

end Parameter

end PacketLink.CommandLine
