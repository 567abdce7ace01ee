import PacketLink.Config.Basic
import PacketLink.Config.Error
import PacketLink.Decimal.Shortest
import PacketLink.Text.Quoted
import PacketLink.Toml.Document

/-!
# Settings in a file

* `Config.ofTable`: settings from a TOML table. Its keys are read in the order of their bytes, and
  the first one that is no setting, or has a value that does not fit, is explained.
* `Config.parse`: settings from a text. Breaking the rules of the format comes before all else.
* `Config.read`: settings from the bytes of a file.
-/

namespace PacketLink

namespace Toml

/-! ## Values in explanations -/

/-- A float as text; there is none for a number that is too large. -/
def FloatLiteral.shown : FloatLiteral → Option String
  | .notANumber => some "NaN"
  | .infinity negative => some (if negative then "-inf" else "inf")
  | .finite negative digits exponent =>
    let size : Int := Decimal.digitCount digits + exponent
    let nearest :=
      if digits = 0 ∨ size < -400 then some Decimal.Binary64.zero
      else if 400 < size then none
      else if 0 ≤ exponent then Decimal.Binary64.nearest? (digits * Nat.pow 10 exponent.toNat) 1
      else Decimal.Binary64.nearest? digits (Nat.pow 10 (-exponent).toNat)
    nearest.map fun b =>
      let (multiple, power) := b.shortest
      (if negative then "-" else "") ++ String.ofList (Decimal.positional multiple power)

/-- Whether a number fits into so many bits, one of them for the sign. -/
def fitsSigned (bits : Nat) (n : Int) : Bool :=
  -(Nat.pow 2 (bits - 1) : Int) ≤ n && n < Nat.pow 2 (bits - 1)

/-- Whether a number fits into so many bits without a sign. -/
def fitsUnsigned (bits : Nat) (n : Int) : Bool := 0 ≤ n && n < Nat.pow 2 bits

/-- Whether a number fits into 64 bits, with a sign or without. -/
def isWord (n : Int) : Bool := fitsSigned 64 n || fitsUnsigned 64 n

/-- An integer as text; beyond 64 bits with the size that it takes, and beyond 128 bits none. -/
def integerShown (n : Int) : Option String :=
  let text := "integer `" ++ toString n ++ "`"
  if isWord n then some text
  else if fitsSigned 128 n then some (text ++ " as i128")
  else if fitsUnsigned 128 n then some (text ++ " as u128")
  else none

/-- What an explanation calls a value; there is nothing for numbers that are too large or stand for
nothing. -/
def Value.shown : Value → Option String
  | .string s => some ("string " ++ Text.quoted s)
  | .integer n => integerShown n
  | .float x => x.shown.map fun text => "floating point `" ++ text ++ "`"
  | .unreadable => none
  | .boolean b => some (if b then "boolean `true`" else "boolean `false`")
  | .array _ | .tables .. => some "sequence"
  | .table .. | .dateTime => some "map"

end Toml

namespace Config

open Toml (Value)

/-! ## Single settings -/

/-- A setting, or an explanation of what is wrong with it, if there is one. -/
abbrev Reading (α : Type) := Except (Option String) α

/-- The explanation of a value of the wrong type. -/
def wrongType (v : Value) (expected : String) : Reading α :=
  .error (v.shown.map fun found => "invalid type: " ++ found ++ ", expected " ++ expected)

/-- A natural number up to a bound. -/
def readNatural (expected : String) (bound : Nat) (v : Value) : Reading Nat :=
  match v with
  | .integer n =>
    if 0 ≤ n ∧ n ≤ bound then .ok n.toNat
    else if Toml.isWord n then
      .error (some ("invalid value: integer `" ++ toString n ++ "`, expected " ++ expected))
    else wrongType v expected
  | v => wrongType v expected

/-- The bound of numbers of 32 bits. -/
def word32 : Nat := 0xFFFFFFFF

/-- The bound of numbers of 64 bits. -/
def word64 : Nat := 0xFFFFFFFFFFFFFFFF

/-- A truth value. -/
def readBoolean : Value → Reading Bool
  | .boolean b => .ok b
  | v => wrongType v "a boolean"

/-- A text. -/
def readText : Value → Reading String
  | .string s => .ok s
  | v => wrongType v "a string"

/-- One of several words. -/
def readWord (words : List (String × α)) (expected word : String) : Reading α :=
  match words.lookup word with
  | some a => .ok a
  | none => .error (some ("unknown variant `" ++ word ++ "`, expected " ++ expected))

/-- Whether a value is an array or a table without anything in it. -/
def isEmpty : Value → Bool
  | .array [] | .table _ [] => true
  | _ => false

/-- One of several words, written as a text or as the only key of a table, with an empty value. -/
def readChoice (words : List (String × α)) (expected : String) : Value → Reading α
  | .string s => readWord words expected s
  | .table _ [(key, v)] => do
    let a ← readWord words expected key
    if isEmpty v then .ok a else .error none
  | _ => .error none

/-- The words for the mode. -/
def modeWords : List (String × Mode) := [("transmit", .transmit), ("receive", .receive)]

/-- The words for the kind of frames. -/
def frameWords : List (String × FrameKind) :=
  [("raw", .raw), ("ieee8023", .ieee8023), ("ieee80211", .ieee80211)]

/-! ## All settings -/

/-- The names of the settings in explanations. -/
def settingNames : String :=
  "`mode`, `tx_delay_ms`, `link_sap`, `interface`, `frame`, `ring`, `ring_frames`, `payload_len`"

/-- Reads one setting into the others. -/
def readSetting (c : Config) (key : String) (v : Value) : Reading Config :=
  match key with
  | "mode" => do
    let mode ← readChoice modeWords "`transmit` or `receive`" v
    pure { c with mode := some mode }
  | "tx_delay_ms" => do
    let n ← readNatural "u64" word64 v
    pure { c with txDelay := some n }
  | "link_sap" => do
    let n ← readNatural "u32" word32 v
    pure { c with linkSap := some n }
  | "interface" => do
    let s ← readText v
    pure { c with interface := some s }
  | "frame" => do
    let kind ← readChoice frameWords "one of `raw`, `ieee8023`, `ieee80211`" v
    pure { c with frame := some kind }
  | "ring" => do
    let b ← readBoolean v
    pure { c with ring := some b }
  | "ring_frames" => do
    let n ← readNatural "u32" word32 v
    pure { c with ringFrames := some n }
  | "payload_len" => do
    let n ← readNatural "usize" word64 v
    pure { c with payloadLength := some n }
  | key => .error (some ("unknown field `" ++ key ++ "`, expected one of " ++ settingNames))

/-- Reads settings one after the other. -/
def readSettings : Config → Toml.Table → Reading Config
  | c, [] => .ok c
  | c, (key, v) :: rest => do readSettings (← c.readSetting key v) rest

/-- The settings in a table. -/
def ofTable (t : Toml.Table) : Except ParseFailure Config :=
  (readSettings {} (t.mergeSort fun a b => a.1 ≤ b.1)).mapError .schema

/-- The settings in a text. -/
def parse (text : String) : Except ParseFailure Config :=
  match Toml.parse? text with
  | some t => ofTable t
  | none => .error .malformed

/-! ## Files -/

/-- The text that bytes stand for in UTF-8. -/
def decodeText (bytes : Bytes) : Option String := String.fromUTF8? ⟨bytes.toArray⟩

/-- The settings in a file, given its path and what is in it or why it cannot be read. -/
def read (path : String) (content : Except Errno Bytes) : Except ConfigError Config :=
  if path.toList.any fun c => c.toNat = 0 then .error (.read path .unusablePath)
  else
    match content with
    | .error e => .error (.read path (.system e))
    | .ok bytes =>
      match decodeText bytes with
      | none => .error (.read path .notUtf8)
      | some text => (parse text).mapError (.parse path)

end Config

end PacketLink
