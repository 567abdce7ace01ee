import PacketLink.HexDump

/-!
# Bytes as hexadecimal digits

* `hexByte_inj`, `colonHex_inj`: a byte and an address show their bytes without ambiguity. Of an
  address the number of bytes has to be known.
* `colonHex_eq_intercalate`, `colonHex_append`: an address is the joined pairs of its octets.
* `hexDigit?_eq_some_iff`: the digits that are read. A digit and its value determine each other up
  to the case (`upperDigit_of_hexDigit?`, `hexDigit?_upperDigit`).
-/

namespace PacketLink

namespace Bytes

theorem upperDigit_inj : ∀ m < 16, ∀ n < 16,
    (Nat.digitChar m).toUpper = (Nat.digitChar n).toUpper → m = n := by decide

theorem hexByte_inj {b c : UInt8} (h : hexByte b = hexByte c) : b = c := by
  have hb := b.toNat_lt
  have hc := c.toNat_lt
  simp only [hexByte, List.cons.injEq, and_true] at h
  have hhigh := upperDigit_inj (b.toNat / 16) (by omega) (c.toNat / 16) (by omega) h.1
  have hlow := upperDigit_inj (b.toNat % 16) (by omega) (c.toNat % 16) (by omega) h.2
  apply UInt8.toNat_inj.mp
  omega

theorem upperDigit_lt : ∀ n < 16, (Nat.digitChar n).toUpper.toNat < 128 := by decide

theorem ascii_of_mem_hexByte {b : UInt8} {x : Char} (h : x ∈ hexByte b) : x.toNat < 128 := by
  have hb := b.toNat_lt
  simp only [hexByte, List.mem_cons, List.not_mem_nil, or_false] at h
  rcases h with rfl | rfl <;> exact upperDigit_lt _ (by omega)

theorem flatMap_hexByte_inj {b c : Bytes} (h : b.flatMap hexByte = c.flatMap hexByte) :
    b = c := by
  induction b generalizing c with
  | nil =>
    cases c with
    | nil => rfl
    | cons c cs => simp [hexByte] at h
  | cons b bs ih =>
    cases c with
    | nil => simp [hexByte] at h
    | cons c cs =>
      rw [List.flatMap_cons, List.flatMap_cons] at h
      obtain ⟨hbyte, hrest⟩ := List.append_inj h rfl
      rw [hexByte_inj hbyte, ih hrest]

theorem length_flatMap_hexByte (b : Bytes) : (b.flatMap hexByte).length = 2 * b.length := by
  induction b with
  | nil => rfl
  | cons b bs ih =>
    rw [List.flatMap_cons, List.length_append, ih, length_hexByte, List.length_cons]
    omega

/-! ## Digits that are read -/

theorem char_le_iff (a b : Char) : a ≤ b ↔ a.toNat ≤ b.toNat := by
  rw [Char.le_def, UInt32.le_iff_toNat_le]
  rfl

theorem hexDigit?_eq_some_iff {c : Char} {v : Nat} : hexDigit? c = some v ↔
    48 ≤ c.toNat ∧ c.toNat ≤ 57 ∧ v = c.toNat - 48 ∨
    97 ≤ c.toNat ∧ c.toNat ≤ 102 ∧ v = c.toNat - 97 + 10 ∨
    65 ≤ c.toNat ∧ c.toNat ≤ 70 ∧ v = c.toNat - 65 + 10 := by
  unfold hexDigit?
  simp only [char_le_iff, Char.reduceToNat]
  grind

theorem hexDigit?_plus : hexDigit? '+' = none := by decide

/-- A digit is an ASCII character of a value below sixteen. -/
theorem bounds_of_hexDigit? {c : Char} {v : Nat} (h : hexDigit? c = some v) :
    c.toNat < 103 ∧ v < 16 := by
  have hv := hexDigit?_eq_some_iff.mp h
  omega

theorem upperDigit_ofNat : ∀ n < 103, ∀ v < 16, hexDigit? (Char.ofNat n) = some v →
    (Nat.digitChar v).toUpper = (Char.ofNat n).toUpper := by decide

/-- A digit is shown in upper case. -/
theorem upperDigit_of_hexDigit? {c : Char} {v : Nat} (h : hexDigit? c = some v) :
    (Nat.digitChar v).toUpper = c.toUpper := by
  obtain ⟨hc, hv⟩ := bounds_of_hexDigit? h
  have hofNat := upperDigit_ofNat c.toNat hc v hv
  rw [Char.ofNat_toNat] at hofNat
  exact hofNat h

theorem hexDigit?_upperDigit : ∀ v < 16, hexDigit? (Nat.digitChar v).toUpper = some v := by decide

/-- The two digits of an octet. -/
theorem hexByte_ofNat {high low : Nat} (hh : high < 16) (hl : low < 16) :
    hexByte (UInt8.ofNat (16 * high + low)) =
      [(Nat.digitChar high).toUpper, (Nat.digitChar low).toUpper] := by
  have hbyte : (UInt8.ofNat (16 * high + low)).toNat = 16 * high + low := by
    rw [UInt8.toNat_ofNat']
    omega
  have hdiv : (16 * high + low) / 16 = high := by omega
  have hmod : (16 * high + low) % 16 = low := by omega
  rw [hexByte, hbyte, hdiv, hmod]

end Bytes

namespace MacAddr

theorem length_colonHex (b : Bytes) : (colonHex b).length = 3 * b.length - 1 := by
  fun_induction colonHex b with
  | case1 => rfl
  | case2 b => rfl
  | case3 b rest hrest ih =>
    have hpos : 0 < rest.length := List.length_pos_iff.mpr hrest
    simp only [List.length_append, List.length_cons, Bytes.length_hexByte, ih]
    omega

theorem colonHex_inj {b c : Bytes} (hl : b.length = c.length) (h : colonHex b = colonHex c) :
    b = c := by
  fun_induction colonHex b generalizing c with
  | case1 => exact (List.length_eq_zero_iff.mp hl.symm).symm
  | case2 b =>
    obtain ⟨c, rfl⟩ := List.length_eq_one_iff.mp hl.symm
    rw [Bytes.hexByte_inj h]
  | case3 b rest hrest ih =>
    cases c with
    | nil => simp at hl
    | cons c rest' =>
      have hl' : rest.length = rest'.length := Nat.succ.inj hl
      have hrest' : rest' ≠ [] := by rintro rfl; exact hrest (List.length_eq_zero_iff.mp hl')
      rw [colonHex.eq_3 c rest' hrest'] at h
      obtain ⟨hbyte, htail⟩ := List.append_inj h rfl
      rw [Bytes.hexByte_inj hbyte, ih hl' (List.cons.inj htail).2]

theorem colonHex_append {b c : Bytes} (hb : b ≠ []) (hc : c ≠ []) :
    colonHex (b ++ c) = colonHex b ++ ':' :: colonHex c := by
  fun_induction colonHex b with
  | case1 => contradiction
  | case2 x => rw [List.singleton_append, colonHex.eq_3 x c hc]
  | case3 x rest hrest ih =>
    have hne : rest ++ c ≠ [] := fun h => hc (List.append_eq_nil_iff.mp h).2
    rw [List.cons_append, colonHex.eq_3 x _ hne, ih hrest, List.append_assoc, List.cons_append]

theorem colonHex_eq_intercalate (b : Bytes) :
    colonHex b = [':'].intercalate (b.map Bytes.hexByte) := by
  fun_induction colonHex b with
  | case1 => rfl
  | case2 x => rw [List.map_singleton, List.intercalate_singleton]
  | case3 x rest hrest ih =>
    obtain ⟨y, ys, rfl⟩ := List.exists_cons_of_ne_nil hrest
    rw [ih, List.map_cons, List.map_cons, List.map_cons, List.intercalate_cons_cons,
      List.append_assoc, List.singleton_append]

theorem ascii_of_mem_colonHex {b : Bytes} {x : Char} (h : x ∈ colonHex b) : x.toNat < 128 := by
  fun_induction colonHex b with
  | case1 => contradiction
  | case2 y => exact Bytes.ascii_of_mem_hexByte h
  | case3 y rest hrest ih =>
    rcases List.mem_append.mp h with hy | htail
    · exact Bytes.ascii_of_mem_hexByte hy
    · rcases List.mem_cons.mp htail with rfl | hx
      · decide
      · exact ih hx

theorem toText_inj {a b : MacAddr} (h : a.toText = b.toText) : a = b := by
  obtain ⟨octets, ha⟩ := a
  obtain ⟨octets', hb⟩ := b
  have htext : colonHex octets = colonHex octets' := String.ofList_injective h
  obtain rfl := colonHex_inj (ha.trans hb.symm) htext
  rfl

end MacAddr

end PacketLink
