/-!
# Reading numerals

* `readUnsigned radix bound`: an unsigned numeral in a radix up to 36, with at most one leading
  `+`, of a value up to `bound`. Characters are read from the left and the first offence decides:
  a character that is no digit, or a value that has passed the bound.
* `readSigned radix low high`: the same with an optional leading `-`.
* `NumeralError`: why a text is no such numeral.
-/

namespace PacketLink.Text

/-- Why a text is not a numeral of the wanted range. -/
inductive NumeralError where
  /-- There is nothing to read. -/
  | empty
  /-- A character is not a digit, or a sign stands alone. -/
  | invalidDigit
  /-- The value passes the upper bound. -/
  | tooLarge
  /-- The value passes the lower bound. -/
  | tooSmall
deriving DecidableEq, Repr

/-- The wording of a numeral error. -/
def NumeralError.message : NumeralError → String
  | .empty => "cannot parse integer from empty string"
  | .invalidDigit => "invalid digit found in string"
  | .tooLarge => "number too large to fit in target type"
  | .tooSmall => "number too small to fit in target type"

/-- The value of an ASCII letter or digit as a digit of `radix`. -/
def digitValue? (radix : Nat) (c : Char) : Option Nat :=
  let value :=
    if '0' ≤ c ∧ c ≤ '9' then c.toNat - '0'.toNat
    else if 'a' ≤ c ∧ c ≤ 'z' then c.toNat - 'a'.toNat + 10
    else if 'A' ≤ c ∧ c ≤ 'Z' then c.toNat - 'A'.toNat + 10
    else radix
  if value < radix then some value else none

/-- Reads the digits that follow those of value `acc`. -/
def readDigits (radix bound : Nat) : Nat → List Char → Except NumeralError Nat
  | acc, [] => .ok acc
  | acc, c :: rest =>
    match digitValue? radix c with
    | none => .error .invalidDigit
    | some d =>
      let next := acc * radix + d
      if next ≤ bound then readDigits radix bound next rest else .error .tooLarge

/-- Reads an unsigned numeral of value at most `bound`. -/
def readUnsigned (radix bound : Nat) : List Char → Except NumeralError Nat
  | [] => .error .empty
  | ['+'] => .error .invalidDigit
  | '+' :: rest => readDigits radix bound 0 rest
  | cs => readDigits radix bound 0 cs

/-- Reads a numeral of value from `-low` to `high`. -/
def readSigned (radix low high : Nat) : List Char → Except NumeralError Int
  | ['-'] => .error .invalidDigit
  | '-' :: rest =>
    match readDigits radix low 0 rest with
    | .ok n => .ok (-(n : Int))
    | .error .tooLarge => .error .tooSmall
    | .error e => .error e
  | cs => (readUnsigned radix high cs).map Int.ofNat

end PacketLink.Text
