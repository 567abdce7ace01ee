import PacketLink.Text.Quoted
import PacketLink.Text.Terminal

/-!
# Log lines

* `Log.Entry`: one report of the program, a message with named fields.
* `Log.Entry.line`: its text: the level, the message, and the fields as `name=value`. The message is
  made safe for a terminal, the fields are not.
-/

namespace PacketLink.Log

/-- How serious a report is. -/
inductive Level where
  | info
  | warn
  | error
deriving DecidableEq, Repr

/-- How a level is written. -/
def Level.label : Level → String
  | .info => "INFO"
  | .warn => "WARN"
  | .error => "ERROR"

/-- One report. -/
structure Entry where
  level : Level
  message : String
  /-- Names with the text of their values, in the order in which they are written. -/
  fields : List (String × String)
deriving DecidableEq, Repr

/-- The text of a report. -/
def Entry.line (e : Entry) : String :=
  e.fields.foldl (fun text (name, value) => text ++ " " ++ name ++ "=" ++ value)
    (e.level.label ++ " " ++ Text.forTerminal e.message)

/-- A report of ordinary progress. -/
def info (message : String) (fields : List (String × String)) : Entry := ⟨.info, message, fields⟩

/-- A report of something the program goes on after. -/
def warn (message : String) (fields : List (String × String)) : Entry := ⟨.warn, message, fields⟩

/-- A report of a failure. -/
def error (message : String) (fields : List (String × String)) : Entry := ⟨.error, message, fields⟩

/-- A field with a number as its value. -/
def number (name : String) (n : Nat) : String × String := (name, toString n)

/-- A field whose value is shown as quoted text. -/
def text (name value : String) : String × String := (name, Text.quoted value)

end PacketLink.Log
