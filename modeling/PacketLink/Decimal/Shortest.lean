import PacketLink.Decimal.Binary64

/-!
# The shortest decimal of a floating-point number

* `Binary64.shortest`: the fewest digits that read back as the number, and of those the nearest;
  of two equally near ones the greater.
* `positional`: digits and a power of ten as text without an exponent and with a point.
-/

namespace PacketLink.Decimal

/-- The number of decimal digits of a natural number. -/
def digitCount (n : Nat) : Nat := (Nat.toDigits 10 n).length

/-- The least power of ten that lifts a quotient to one or more, by its exponent. -/
def liftPower (num den : Nat) : Nat → Nat
  | 0 => 0
  | fuel + 1 => if den ≤ num then 0 else liftPower (num * 10) den fuel + 1

/-- The largest power of ten that does not pass a quotient, by its exponent. -/
def decimalLog (num den : Nat) : Int :=
  if den ≤ num then digitCount (num / den) - 1 else -liftPower num den 400

/-- A number, and the interval of numbers that are read as it, all over one denominator. -/
structure Interval where
  low : Nat
  value : Nat
  high : Nat
  den : Nat
  /-- Whether the ends belong to the interval. -/
  closed : Bool

namespace Binary64

/-- The numbers that are read as `b`. Towards zero the next number is half as far away where the
exponent changes. -/
def interval (b : Binary64) : Interval :=
  let unit := if 0 ≤ b.exponent then Nat.pow 2 b.exponent.toNat else 1
  let den := if 0 ≤ b.exponent then 1 else Nat.pow 2 (-b.exponent).toNat
  let below := if b.significand = Nat.pow 2 52 ∧ minExponent < b.exponent then 1 else 2
  let value := 4 * b.significand * unit
  { low := value - below * unit
    value
    high := value + 2 * unit
    den := 4 * den
    closed := b.significand % 2 = 0 }

end Binary64

/-- A multiple of a power of ten against a quotient: both over the same denominator. -/
def onGrid (i : Interval) (multiple : Nat) (power : Int) (bound : Nat) : Nat × Nat :=
  if 0 ≤ power then (multiple * Nat.pow 10 power.toNat * i.den, bound)
  else (multiple * i.den, bound * Nat.pow 10 (-power).toNat)

/-- Whether a multiple of a power of ten lies in the interval. -/
def Interval.contains (i : Interval) (multiple : Nat) (power : Int) : Bool :=
  let (a, low) := onGrid i multiple power i.low
  let (b, high) := onGrid i multiple power i.high
  if i.closed then low ≤ a && b ≤ high else low < a && b < high

/-- How far a multiple of a power of ten is from the number, in units that depend on the power. -/
def Interval.distance (i : Interval) (multiple : Nat) (power : Int) : Nat :=
  let (a, value) := onGrid i multiple power i.value
  (a - value) + (value - a)

/-- Of the two neighbours of the number among the multiples of a power of ten the one in the
interval, or none. If both are in it, the nearer one, or the greater one if they are equally
near. -/
def Interval.pick? (i : Interval) (power : Int) : Option Nat :=
  let (one, value) := onGrid i 1 power i.value
  let floor := value / one
  match i.contains floor power, i.contains (floor + 1) power with
  | false, false => none
  | true, false => some floor
  | false, true => some (floor + 1)
  | true, true =>
    if i.distance floor power < i.distance (floor + 1) power then some floor
    else some (floor + 1)

/-- The first hit on the grids of `power` and of the powers below it. -/
def Interval.search (i : Interval) (power : Int) : Nat → Nat × Int
  | 0 => (0, 0)
  | steps + 1 =>
    match i.pick? power with
    | some multiple => (multiple, power)
    | none => i.search (power - 1) steps

/-- A multiple without trailing zeros, with the power of ten that makes up for them. -/
def trimmed (multiple : Nat) (power : Int) : Nat → Nat × Int
  | 0 => (multiple, power)
  | steps + 1 =>
    if multiple ≠ 0 ∧ multiple % 10 = 0 then trimmed (multiple / 10) (power + 1) steps
    else (multiple, power)

/-- The fewest digits that read back as the number, as a multiple of a power of ten. Seventeen
digits are always enough. -/
def Binary64.shortest (b : Binary64) : Nat × Int :=
  if b.significand = 0 then (0, 0)
  else
    let i := b.interval
    let (multiple, power) := i.search (decimalLog i.value i.den) 18
    trimmed multiple power 20

/-- A multiple of a power of ten as text without an exponent and with a point. -/
def positional (multiple : Nat) (power : Int) : List Char :=
  let digits := Nat.toDigits 10 multiple
  if 0 ≤ power then digits ++ List.replicate power.toNat '0' ++ ['.', '0']
  else
    let places := (-power).toNat
    let padded := List.replicate (places + 1 - digits.length) '0' ++ digits
    let whole := padded.length - places
    padded.take whole ++ '.' :: padded.drop whole

end PacketLink.Decimal
