import PacketLink.Text.Numeral
import PacketLink.Toml.Value

/-!
# Numbers, words and dates

* `scalar?`: the value that a run of characters without quotes stands for.
* `radixInteger?`, `decimal?`: numbers are told by their form first and read afterwards. So an
  integer may have the right form and no value: a hexadecimal, octal or binary one without digits,
  or a decimal one with something else among its digits after an underscore.
* `underscoresFit`: underscores may stand between digits, or between a sign and a digit.
* Floats have a fraction, an exponent or both, or are the words `inf` and `nan`.
* Dates and times are checked against the calendar and the clock; seconds may be left out.
-/

namespace PacketLink.Toml

/-! ## Digits -/

/-- Whether a character is a digit of a radix. -/
def isDigitOf (radix : Nat) (c : Char) : Bool := (Text.digitValue? radix c).isSome

/-- The number that digits stand for. -/
def valueOf (radix : Nat) (digits : List Char) : Nat :=
  digits.foldl (fun n c => n * radix + (Text.digitValue? radix c).getD 0) 0

/-- The characters without the underscores. -/
def withoutUnderscores (cs : List Char) : List Char := cs.filter (· ≠ '_')

/-- Whether each underscore has a digit right before and right after it. Whether there is one before
the first character is `before`. -/
def underscoresFit (isDigit : Char → Bool) (before : Bool) : List Char → Bool
  | [] => true
  | '_' :: c :: rest => before && isDigit c && underscoresFit isDigit true rest
  | c :: rest => c ≠ '_' && underscoresFit isDigit (isDigit c) rest

/-- Some digits, without the underscores among them, and what follows. -/
def digits? (cs : List Char) : Option (List Char × List Char) :=
  let (run, rest) := cs.span fun c => c.isDigit || c = '_'
  let digits := withoutUnderscores run
  if digits.isEmpty then none else some (digits, rest)

/-! ## Signs -/

/-- The sign of a number. -/
inductive Sign where
  | plus
  | minus
deriving DecidableEq, Repr

/-- The sign that characters start with, if there is one, and what follows. -/
def sign : List Char → Option Sign × List Char
  | '+' :: rest => (some .plus, rest)
  | '-' :: rest => (some .minus, rest)
  | cs => (none, cs)

/-- The number with a sign and a size. -/
def signed (sign : Option Sign) (n : Nat) : Int := if sign = some .minus then -n else n

/-! ## Integers -/

/-- The integer of a sign and digits, if they are digits. -/
def integer (radix : Nat) (sign : Option Sign) (digits : List Char) : Value :=
  if !digits.isEmpty && digits.all (isDigitOf radix) then
    .integer (signed sign (valueOf radix digits))
  else .unreadable

/-- An integer after the mark of its radix. -/
def radixInteger? (radix : Nat) (cs : List Char) : Option Value :=
  let digits := withoutUnderscores cs
  if digits.all (isDigitOf radix) && underscoresFit (isDigitOf 16) false cs then
    some (integer radix none digits)
  else none

/-- A decimal integer after its sign. It has no leading zeros. What may stand beside underscores are
the digits of all radices. -/
def decimalInteger? (sign : Option Sign) (cs : List Char) : Option Value :=
  match cs with
  | [] | '0' :: _ :: _ => none
  | cs =>
    if underscoresFit (isDigitOf 16) sign.isSome cs then
      some (integer 10 sign (withoutUnderscores cs))
    else none

/-! ## Floats -/

/-- The digits after the point, if there is one, and what follows. -/
def places? : List Char → Option (List Char × List Char)
  | '.' :: rest => digits? rest
  | cs => some ([], cs)

/-- The exponent, if there is one, and what follows. -/
def exponent? : List Char → Option (Int × List Char)
  | 'e' :: rest | 'E' :: rest => do
    let (sign, rest) := sign rest
    let (digits, rest) ← digits? rest
    pure (signed sign (valueOf 10 digits), rest)
  | cs => some (0, cs)

/-- A float after its sign. It has no leading zeros. -/
def float? (sign : Option Sign) (cs : List Char) : Option Value := do
  let (whole, rest) ← digits? cs
  let (places, rest) ← places? rest
  let (exponent, rest) ← exponent? rest
  let leadingZero := cs.head? = some '0' ∧ 1 < whole.length
  if rest.isEmpty ∧ ¬leadingZero ∧ underscoresFit Char.isDigit sign.isSome cs then
    let digits := valueOf 10 (whole ++ places)
    some (.float (.finite (sign = some .minus) digits (exponent - places.length)))
  else none

/-! ## Numbers -/

/-- What tells a float from an integer. -/
def marksFloat (c : Char) : Bool := c = '.' || c = 'e' || c = 'E'

/-- A decimal number after its sign. Behind its first digits an integer ends or goes on with an
underscore. -/
def decimal? (sign : Option Sign) (cs : List Char) : Option Value :=
  let rest := cs.dropWhile Char.isDigit
  if rest.any marksFloat then float? sign cs
  else if rest.isEmpty ∨ rest.head? = some '_' then decimalInteger? sign cs
  else none

/-- A number. Only decimal numbers have signs. -/
def number? : List Char → Option Value
  | '0' :: 'x' :: digits => radixInteger? 16 digits
  | '0' :: 'o' :: digits => radixInteger? 8 digits
  | '0' :: 'b' :: digits => radixInteger? 2 digits
  | cs =>
    match sign cs with
    | (sign, ['i', 'n', 'f']) => some (.float (.infinity (sign = some .minus)))
    | (_, ['n', 'a', 'n']) => some (.float .notANumber)
    | (sign, cs) => decimal? sign cs

/-! ## Dates and times -/

/-- Exactly `count` decimal digits. -/
def fixedDigits? (count : Nat) (cs : List Char) : Option (Nat × List Char) :=
  let digits := cs.take count
  if digits.length = count ∧ digits.all Char.isDigit then some (valueOf 10 digits, cs.drop count)
  else none

/-- Two decimal digits up to a bound. -/
def twoDigits? (bound : Nat) (cs : List Char) : Option (Nat × List Char) := do
  let (n, rest) ← fixedDigits? 2 cs
  if n ≤ bound then some (n, rest) else none

/-- Skips one character. -/
def expect? (c : Char) : List Char → Option (List Char)
  | d :: rest => if c = d then some rest else none
  | [] => none

/-- Whether a year has a leap day. -/
def isLeapYear (year : Nat) : Bool := year % 4 = 0 && (year % 100 ≠ 0 || year % 400 = 0)

/-- The number of days in a month. -/
def daysInMonth (year month : Nat) : Nat :=
  if month = 2 then (if isLeapYear year then 29 else 28)
  else if month = 4 ∨ month = 6 ∨ month = 9 ∨ month = 11 then 30
  else 31

/-- Skips a date. -/
def date? (cs : List Char) : Option (List Char) := do
  let (year, cs) ← fixedDigits? 4 cs
  let (month, cs) ← twoDigits? 12 (← expect? '-' cs)
  let (day, cs) ← twoDigits? (daysInMonth year month) (← expect? '-' cs)
  if 1 ≤ month ∧ 1 ≤ day then some cs else none

/-- Skips the digits of a fraction of a second. -/
def subsecond? : List Char → Option (List Char)
  | '.' :: c :: rest => if c.isDigit then some (rest.dropWhile Char.isDigit) else none
  | '.' :: [] => none
  | cs => some cs

/-- Skips a time of day. A minute may have sixty-one seconds. -/
def time? (cs : List Char) : Option (List Char) := do
  let (_, cs) ← twoDigits? 23 cs
  let (_, cs) ← twoDigits? 59 (← expect? ':' cs)
  match cs with
  | ':' :: cs => do
    let (_, cs) ← twoDigits? 60 cs
    subsecond? cs
  | cs => some cs

/-- Skips the distance from universal time, if it is given. -/
def offset? : List Char → Option (List Char)
  | 'Z' :: rest | 'z' :: rest => some rest
  | '+' :: rest | '-' :: rest => do
    let (_, cs) ← twoDigits? 23 rest
    let (_, cs) ← twoDigits? 59 (← expect? ':' cs)
    pure cs
  | cs => some cs

/-- What follows a date, up to the end. -/
def afterDate? (cs : List Char) : Option (List Char) :=
  match cs with
  | 'T' :: rest | 't' :: rest | ' ' :: rest => do offset? (← time? rest)
  | cs => some cs

/-- Whether characters are a date, a time, or both. -/
def isDateTime (cs : List Char) : Bool :=
  (date? cs).bind afterDate? = some [] || time? cs = some []

/-! ## Words -/

/-- The value that a run of characters without quotes stands for. -/
def scalar? (cs : List Char) : Option Value :=
  if cs = ['t', 'r', 'u', 'e'] then some (.boolean true)
  else if cs = ['f', 'a', 'l', 's', 'e'] then some (.boolean false)
  else if isDateTime cs then some .dateTime
  else number? cs

end PacketLink.Toml
