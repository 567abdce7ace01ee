import PacketLink.Frame.Kind
import PacketLink.Host.Errno

/-!
# What is wrong with settings

* `ReadFailure`: why a file cannot be read as text.
* `ParseFailure`: why a text holds no settings.
* `ConfigError`: these, and why settings are not usable.
-/

namespace PacketLink

/-- Why a file cannot be read as text. -/
inductive ReadFailure where
  | system (cause : Errno)
  /-- No file has such a path: there is a NUL in it. -/
  | unusablePath
  | notUtf8
deriving DecidableEq, Repr

/-- The wording of a reading failure. -/
def ReadFailure.message : ReadFailure → String
  | .system cause => cause.message
  | .unusablePath => "file name contained an unexpected NUL byte"
  | .notUtf8 => "stream did not contain valid UTF-8"

/-- Why a text holds no settings. -/
inductive ParseFailure where
  /-- It breaks the rules of the format. -/
  | malformed
  /-- A key or value is not one of the settings; for most cases there is an explanation. -/
  | schema (explanation : Option String)
deriving DecidableEq, Repr

/-- Why there are no usable settings. -/
inductive ConfigError where
  | read (path : String) (cause : ReadFailure)
  | parse (path : String) (cause : ParseFailure)
  | missingMode
  | missing (setting : String)
  | txDelay (milliseconds : Nat)
  | linkSap (value : Nat)
  | emptyInterface
  | ringFrames (frames : Nat)
  | payloadTooLarge (kind : FrameKind) (maximum actual : Nat)
  | payloadTooShort (minimum actual : Nat)
deriving DecidableEq, Repr

/-- The longest pause between sent frames, in milliseconds. -/
def maxTxDelay : Nat := 1000

/-- The wording of an error. Of a text that holds no settings it names the file only. -/
def ConfigError.message : ConfigError → String
  | .read path cause => "Failed to read config file " ++ path ++ ": " ++ cause.message
  | .parse path _ => "Failed to parse config file " ++ path
  | .missingMode => "Exactly one of --tx <DELAY_MS> or --rx must be given"
  | .missing setting => "Missing required setting: " ++ setting
  | .txDelay milliseconds =>
    "tx_delay must be 1..=" ++ toString maxTxDelay ++ " ms, got " ++ toString milliseconds
  | .linkSap value => "link_sap must be 1..=0xFFFF, got " ++ toString value
  | .emptyInterface => "Interface name must not be empty"
  | .ringFrames frames => "ring_frames must be a power of two >= 2, got " ++ toString frames
  | .payloadTooLarge kind maximum actual =>
    "payload_len " ++ toString actual ++ " exceeds the " ++ toString maximum ++ " bytes a "
      ++ kind.label ++ " frame can carry here"
  | .payloadTooShort minimum actual =>
    "payload_len " ++ toString actual ++ " is below the " ++ toString minimum
      ++ " bytes the kernel accepts for a raw frame"

end PacketLink
