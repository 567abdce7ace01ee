/-!
# Byte strings

* `Bytes`: a byte string is a list of bytes.
* `littleEndian`/`ofLittleEndian`, `bigEndian`/`ofBigEndian`: numbers as byte strings of a fixed
  width. Reading back what was written gives the number modulo `Nat.pow 256 width`
  (`ofLittleEndian_littleEndian`), and writing what was read gives the bytes
  (`littleEndian_ofLittleEndian`).
* `hexByte` writes one byte as two upper-case hexadecimal digits, `lowerHex` a byte string as
  lower-case ones; `ofHex?` reads either.
-/

namespace PacketLink

/-- A byte string. -/
abbrev Bytes := List UInt8

namespace Bytes

/-- The `width` low bytes of `n`, the lowest first. -/
def littleEndian : Nat → Nat → Bytes
  | 0, _ => []
  | width + 1, n => UInt8.ofNat n :: littleEndian width (n / 256)

/-- The number whose bytes are given, the lowest first. -/
def ofLittleEndian : Bytes → Nat
  | [] => 0
  | b :: rest => b.toNat + 256 * ofLittleEndian rest

/-- The `width` low bytes of `n`, the highest first. -/
def bigEndian (width n : Nat) : Bytes := (littleEndian width n).reverse

/-- The number whose bytes are given, the highest first. -/
def ofBigEndian (bytes : Bytes) : Nat := ofLittleEndian bytes.reverse

@[simp] theorem length_littleEndian (width n : Nat) : (littleEndian width n).length = width := by
  induction width generalizing n with
  | zero => rfl
  | succ w ih => simp [littleEndian, ih]

@[simp] theorem length_bigEndian (width n : Nat) : (bigEndian width n).length = width := by
  simp [bigEndian]

theorem ofLittleEndian_littleEndian (width n : Nat) :
    ofLittleEndian (littleEndian width n) = n % Nat.pow 256 width := by
  induction width generalizing n with
  | zero => exact (Nat.mod_one n).symm
  | succ w ih =>
    have h : n % Nat.pow 256 (w + 1) = n % 256 + 256 * (n / 256 % Nat.pow 256 w) := by
      rw [show Nat.pow 256 (w + 1) = 256 * Nat.pow 256 w from Nat.mul_comm ..]
      exact Nat.mod_mul
    rw [littleEndian, ofLittleEndian, ih, UInt8.toNat_ofNat']
    exact h.symm

theorem ofBigEndian_bigEndian (width n : Nat) :
    ofBigEndian (bigEndian width n) = n % Nat.pow 256 width := by
  rw [ofBigEndian, bigEndian, List.reverse_reverse, ofLittleEndian_littleEndian]

/-- A number that was read is written as the bytes that it was read from. -/
theorem littleEndian_ofLittleEndian (bytes : Bytes) :
    littleEndian bytes.length (ofLittleEndian bytes) = bytes := by
  induction bytes with
  | nil => rfl
  | cons b rest ih =>
    have hb := b.toNat_lt
    have hlow : UInt8.ofNat (b.toNat + 256 * ofLittleEndian rest) = b := by
      apply UInt8.toNat_inj.mp
      rw [UInt8.toNat_ofNat']
      omega
    have hhigh : (b.toNat + 256 * ofLittleEndian rest) / 256 = ofLittleEndian rest := by omega
    rw [List.length_cons, ofLittleEndian, littleEndian, hlow, hhigh, ih]

theorem bigEndian_ofBigEndian (bytes : Bytes) :
    bigEndian bytes.length (ofBigEndian bytes) = bytes := by
  rw [bigEndian, ofBigEndian, ← List.length_reverse, littleEndian_ofLittleEndian,
    List.reverse_reverse]

/-- One byte as two upper-case hexadecimal digits. -/
def hexByte (b : UInt8) : List Char :=
  [(Nat.digitChar (b.toNat / 16)).toUpper, (Nat.digitChar (b.toNat % 16)).toUpper]

@[simp] theorem length_hexByte (b : UInt8) : (hexByte b).length = 2 := rfl

/-- A byte string as lower-case hexadecimal digits, two for each byte. -/
def lowerHex (bytes : Bytes) : String :=
  String.ofList <|
    bytes.flatMap fun b => [Nat.digitChar (b.toNat / 16), Nat.digitChar (b.toNat % 16)]

/-- The number below 16 that a hexadecimal digit stands for. -/
def hexDigit? (c : Char) : Option Nat :=
  if '0' ≤ c ∧ c ≤ '9' then some (c.toNat - '0'.toNat)
  else if 'a' ≤ c ∧ c ≤ 'f' then some (c.toNat - 'a'.toNat + 10)
  else if 'A' ≤ c ∧ c ≤ 'F' then some (c.toNat - 'A'.toNat + 10)
  else none

/-- The byte string that pairs of hexadecimal digits stand for. -/
def ofHexChars? : List Char → Option Bytes
  | [] => some []
  | [_] => none
  | a :: b :: rest => do
    let high ← hexDigit? a
    let low ← hexDigit? b
    let tail ← ofHexChars? rest
    pure (UInt8.ofNat (16 * high + low) :: tail)

/-- The byte string that a text of hexadecimal digits stands for. -/
def ofHex? (s : String) : Option Bytes := ofHexChars? s.toList

end Bytes

end PacketLink
