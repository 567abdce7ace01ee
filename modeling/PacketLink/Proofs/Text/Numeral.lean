import Mathlib.Data.List.Forall2
import Mathlib.Data.Nat.Digits.Defs
import PacketLink.Proofs.Text.Hexadecimal
import PacketLink.Text.Numeral

/-!
# Texts that are read as numerals

* `Numeral digit? radix cs n`: the characters `cs` are one or more digits of the number `n`, the
  highest first, where `digit?` gives the value of a digit.
* `Signed`: the same after at most one plus sign.
* `readDigits_eq_ok_iff`: the reader goes through digits as long as their value is within the bound.
  A digit never makes the value smaller, so only the value of all digits matters.
* `readUnsigned_eq_ok_iff`: it reads the numerals up to the bound, with or without a plus sign, and
  nothing else. In radix ten and sixteen these are the usual ones
  (`readUnsigned_ten_eq_ok_iff`, `readUnsigned_sixteen_eq_ok_iff`).
-/

namespace PacketLink.Text

variable {radix bound : Nat} {digit? : Char → Option Nat} {cs : List Char} {n : Nat}

/-- The characters are digits with these values. -/
def AreDigits (digit? : Char → Option Nat) (cs : List Char) (values : List Nat) : Prop :=
  List.Forall₂ (fun c d => digit? c = some d) cs values

/-- The characters are one or more digits of a number, the highest first. -/
def Numeral (digit? : Char → Option Nat) (radix : Nat) (cs : List Char) (n : Nat) : Prop :=
  cs ≠ [] ∧ ∃ values, AreDigits digit? cs values ∧ n = Nat.ofDigits radix values.reverse

/-- They may follow a plus sign. -/
def Signed (digit? : Char → Option Nat) (radix : Nat) (cs : List Char) (n : Nat) : Prop :=
  Numeral digit? radix cs n ∨ ∃ rest, cs = '+' :: rest ∧ Numeral digit? radix rest n

/-! ## Values -/

/-- The value of digits that follow those of value `acc`. -/
def valueAfter (radix acc : Nat) (values : List Nat) : Nat :=
  values.foldl (fun value d => value * radix + d) acc

theorem valueAfter_zero (radix : Nat) (values : List Nat) :
    valueAfter radix 0 values = Nat.ofDigits radix values.reverse := by
  rw [Nat.ofDigits_eq_foldr, List.foldr_reverse, valueAfter]
  congr 1
  funext value d
  simp only [Nat.cast_id]
  rw [Nat.mul_comm, Nat.add_comm]

/-- A digit never makes the value smaller. -/
theorem le_valueAfter (hr : 0 < radix) (acc : Nat) (values : List Nat) :
    acc ≤ valueAfter radix acc values := by
  induction values generalizing acc with
  | nil => exact Nat.le_refl acc
  | cons d values ih =>
    calc
      acc ≤ acc * radix := Nat.le_mul_of_pos_right acc hr
      _ ≤ acc * radix + d := Nat.le_add_right _ _
      _ ≤ valueAfter radix acc (d :: values) := ih _

/-- One digit is a numeral of its value. -/
theorem numeral_singleton_iff {c : Char} : Numeral digit? radix [c] n ↔ digit? c = some n := by
  simp only [Numeral, AreDigits, List.forall₂_cons_left_iff, List.forall₂_nil_left_iff]
  constructor
  · rintro ⟨-, _, ⟨d, _, hd, rfl, rfl⟩, rfl⟩
    simpa using hd
  · intro hd
    exact ⟨nofun, _, ⟨n, _, hd, rfl, rfl⟩, by simp⟩

/-- Two digits that may follow a plus sign, or a digit that follows one. -/
theorem signed_pair_iff {a b : Char} : Signed digit? radix [a, b] n ↔
    (∃ high low, digit? a = some high ∧ digit? b = some low ∧ n = radix * high + low) ∨
      a = '+' ∧ digit? b = some n := by
  refine or_congr ?_ ?_
  · simp only [Numeral, AreDigits, List.forall₂_cons_left_iff, List.forall₂_nil_left_iff]
    constructor
    · rintro ⟨-, _, ⟨high, _, hhigh, ⟨low, _, hlow, rfl, rfl⟩, rfl⟩, rfl⟩
      refine ⟨high, low, hhigh, hlow, ?_⟩
      simp [Nat.ofDigits_cons, Nat.add_comm]
    · rintro ⟨high, low, hhigh, hlow, rfl⟩
      refine ⟨nofun, _, ⟨high, _, hhigh, ⟨low, _, hlow, rfl, rfl⟩, rfl⟩, ?_⟩
      simp [Nat.ofDigits_cons, Nat.add_comm]
  · constructor
    · rintro ⟨rest, hcons, h⟩
      cases hcons
      exact ⟨rfl, numeral_singleton_iff.mp h⟩
    · rintro ⟨rfl, h⟩
      exact ⟨[b], rfl, numeral_singleton_iff.mpr h⟩

/-! ## Digits -/

theorem digitValue?_eq_some_iff {c : Char} {d : Nat} : digitValue? radix c = some d ↔
    d < radix ∧ (48 ≤ c.toNat ∧ c.toNat ≤ 57 ∧ d = c.toNat - 48 ∨
      97 ≤ c.toNat ∧ c.toNat ≤ 122 ∧ d = c.toNat - 97 + 10 ∨
      65 ≤ c.toNat ∧ c.toNat ≤ 90 ∧ d = c.toNat - 65 + 10) := by
  unfold digitValue?
  simp only [Bytes.char_le_iff, Char.reduceToNat]
  grind

theorem digitValue?_plus (radix : Nat) : digitValue? radix '+' = none := by
  simp [digitValue?]

/-- The value of a decimal digit. -/
def decimalDigit? (c : Char) : Option Nat :=
  if c.isDigit then some (c.toNat - '0'.toNat) else none

theorem decimalDigit?_eq_some_iff {c : Char} {d : Nat} :
    decimalDigit? c = some d ↔ 48 ≤ c.toNat ∧ c.toNat ≤ 57 ∧ d = c.toNat - 48 := by
  unfold decimalDigit? Char.isDigit
  simp only [Bool.and_eq_true, decide_eq_true_eq, ge_iff_le, UInt32.le_iff_toNat_le,
    Char.toNat_val, Char.reduceToNat]
  grind

theorem digitValue?_ten : digitValue? 10 = decimalDigit? := by
  funext c
  apply Option.ext
  intro d
  rw [digitValue?_eq_some_iff, decimalDigit?_eq_some_iff]
  omega

theorem digitValue?_sixteen : digitValue? 16 = Bytes.hexDigit? := by
  funext c
  apply Option.ext
  intro d
  rw [digitValue?_eq_some_iff, Bytes.hexDigit?_eq_some_iff]
  omega

/-! ## Reading -/

/-- Reading digits after a value within the bound. -/
theorem readDigits_eq_ok_iff {acc : Nat} (ha : acc ≤ bound) :
    readDigits radix bound acc cs = .ok n ↔
      ∃ values, AreDigits (digitValue? radix) cs values ∧ n = valueAfter radix acc values ∧
        n ≤ bound := by
  induction cs generalizing acc with
  | nil =>
    constructor
    · intro h
      cases h
      exact ⟨[], .nil, rfl, ha⟩
    · rintro ⟨values, hdigits, rfl, -⟩
      cases hdigits
      rfl
  | cons c cs ih =>
    rw [readDigits]
    cases hc : digitValue? radix c with
    | none =>
      refine iff_of_false nofun ?_
      rintro ⟨values, hdigits, -⟩
      cases hdigits with
      | cons hfirst hrest => cases hc.symm.trans hfirst
    | some d =>
      have hr : 0 < radix := Nat.zero_lt_of_lt (digitValue?_eq_some_iff.mp hc).1
      dsimp only
      by_cases hnext : acc * radix + d ≤ bound
      · rw [if_pos hnext, ih hnext]
        constructor
        · rintro ⟨values, hdigits, hn, hle⟩
          exact ⟨d :: values, .cons hc hdigits, hn, hle⟩
        · rintro ⟨values, hdigits, hn, hle⟩
          cases hdigits with
          | cons hfirst hrest =>
            cases hc.symm.trans hfirst
            exact ⟨_, hrest, hn, hle⟩
      · rw [if_neg hnext]
        refine iff_of_false nofun ?_
        rintro ⟨values, hdigits, rfl, hle⟩
        cases hdigits with
        | cons hfirst hrest =>
          cases hc.symm.trans hfirst
          -- The value has passed the bound and does not come back.
          exact hnext (Nat.le_trans (le_valueAfter hr _ _) hle)

theorem readDigits_zero_eq_ok_iff (hne : cs ≠ []) :
    readDigits radix bound 0 cs = .ok n ↔ Numeral (digitValue? radix) radix cs n ∧ n ≤ bound := by
  rw [readDigits_eq_ok_iff (Nat.zero_le bound)]
  constructor
  · rintro ⟨values, hdigits, hn, hle⟩
    exact ⟨⟨hne, values, hdigits, hn.trans (valueAfter_zero ..)⟩, hle⟩
  · rintro ⟨⟨-, values, hdigits, hn⟩, hle⟩
    exact ⟨values, hdigits, hn.trans (valueAfter_zero ..).symm, hle⟩

/-- What is no digit is in no numeral. -/
theorem Numeral.not_mem {c : Char} (hc : digit? c = none) (h : Numeral digit? radix cs n) :
    c ∉ cs := by
  obtain ⟨-, values, hdigits, -⟩ := h
  induction hdigits with
  | nil => exact List.not_mem_nil
  | cons hfirst _ ih =>
    rw [List.mem_cons, not_or]
    refine ⟨?_, ih⟩
    rintro rfl
    cases hc.symm.trans hfirst

/-- Numerals up to the bound are read, after at most one plus sign, and nothing else is. -/
theorem readUnsigned_eq_ok_iff :
    readUnsigned radix bound cs = .ok n ↔ Signed (digitValue? radix) radix cs n ∧ n ≤ bound := by
  unfold readUnsigned Signed
  split
  · refine iff_of_false nofun ?_
    rintro ⟨⟨hne, -⟩ | ⟨rest, hcons, -⟩, -⟩
    · exact hne rfl
    · cases hcons
  · refine iff_of_false nofun ?_
    rintro ⟨h | ⟨rest, hcons, hne, -⟩, -⟩
    · exact h.not_mem (digitValue?_plus radix) (List.mem_singleton_self _)
    · cases hcons
      exact hne rfl
  · rename_i rest hrest
    rw [readDigits_zero_eq_ok_iff hrest]
    refine and_congr_left fun _ => ⟨fun h => .inr ⟨rest, rfl, h⟩, ?_⟩
    rintro (h | ⟨rest', hcons, h⟩)
    · exact absurd List.mem_cons_self (h.not_mem (digitValue?_plus radix))
    · cases hcons
      exact h
  · rename_i hnil _ hplus
    rw [readDigits_zero_eq_ok_iff hnil]
    refine and_congr_left fun _ => ⟨.inl, ?_⟩
    rintro (h | ⟨rest, rfl, -⟩)
    · exact h
    · exact (hplus rest rfl).elim

theorem readUnsigned_ten_eq_ok_iff :
    readUnsigned 10 bound cs = .ok n ↔ Signed decimalDigit? 10 cs n ∧ n ≤ bound := by
  rw [readUnsigned_eq_ok_iff, digitValue?_ten]

theorem readUnsigned_sixteen_eq_ok_iff :
    readUnsigned 16 bound cs = .ok n ↔ Signed Bytes.hexDigit? 16 cs n ∧ n ≤ bound := by
  rw [readUnsigned_eq_ok_iff, digitValue?_sixteen]

end PacketLink.Text
