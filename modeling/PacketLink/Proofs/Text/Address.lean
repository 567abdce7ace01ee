import PacketLink.Proofs.Text.Numeral

/-!
# Texts that are read as addresses

* `MacAddr.HexPair a b o`: two hexadecimal digits with the octet that they stand for.
  `MacAddr.SignedDigit a b o`: a plus sign and one digit. `MacAddr.IsOctet` is either.
* `MacAddr.Parts part cs octets`: the characters `cs` are parts for these octets with one separator
  between neighbours, where `part` says what a part is.
* `MacAddr.readParts_eq_some_iff`: the parser reads parts of either sort and nothing else.
* `MacAddr.shown`: how a character of an address that was read comes back when the address is shown
  (`MacAddr.toText_of_parse`).
* `MacAddr.ReadsPairs s`: `s` is treated as the rule of six pairs of digits has it. That is so
  except where a text with a plus sign is taken for an address (`MacAddr.readsPairs_iff`).
* `MacAddr.parse_exact`: which texts are addresses and of what, and which are refused.
-/

namespace PacketLink

namespace MacAddr

open Bytes (hexDigit? hexDigit?_plus hexByte)

/-! ## Parts -/

/-- Two hexadecimal digits with the octet that they stand for. -/
def HexPair (a b : Char) (octet : UInt8) : Prop :=
  ∃ high low, hexDigit? a = some high ∧ hexDigit? b = some low ∧
    octet = UInt8.ofNat (16 * high + low)

/-- A plus sign and a hexadecimal digit with the octet that they stand for. -/
def SignedDigit (a b : Char) (octet : UInt8) : Prop :=
  a = '+' ∧ ∃ low, hexDigit? b = some low ∧ octet = UInt8.ofNat low

/-- What is read as an octet. -/
def IsOctet (a b : Char) (octet : UInt8) : Prop := HexPair a b octet ∨ SignedDigit a b octet

/-- Parts of two characters each, one for each octet, with one separator between neighbours. -/
inductive Parts (part : Char → Char → UInt8 → Prop) : List Char → Bytes → Prop
  | last {a b : Char} {o : UInt8} (h : part a b o) : Parts part [a, b] [o]
  | cons {a b separator : Char} {o : UInt8} {cs : List Char} {octets : Bytes} (h : part a b o)
      (hs : separator = ':' ∨ separator = '-') (hrest : Parts part cs octets) :
      Parts part (a :: b :: separator :: cs) (o :: octets)

variable {part other : Char → Char → UInt8 → Prop} {a b : Char} {o : UInt8} {cs : List Char}
  {octets : Bytes}

theorem Parts.imp (himp : ∀ a b o, part a b o → other a b o) (h : Parts part cs octets) :
    Parts other cs octets := by
  induction h with
  | last h => exact .last (himp _ _ _ h)
  | cons h hs _ ih => exact .cons (himp _ _ _ h) hs ih

theorem parts_pair_iff : Parts part [a, b] octets ↔ ∃ o, part a b o ∧ octets = [o] := by
  constructor
  · rintro (h | _)
    exact ⟨_, h, rfl⟩
  · rintro ⟨o, h, rfl⟩
    exact .last h

theorem parts_cons_iff {separator : Char} :
    Parts part (a :: b :: separator :: cs) octets ↔
      ∃ o, part a b o ∧ (separator = ':' ∨ separator = '-') ∧
        ∃ rest, Parts part cs rest ∧ octets = o :: rest := by
  constructor
  · rintro (_ | ⟨h, hs, hrest⟩)
    exact ⟨_, h, hs, _, hrest, rfl⟩
  · rintro ⟨o, h, hs, rest, hrest, rfl⟩
    exact .cons h hs hrest

theorem isSeparator_iff {c : Char} : isSeparator c = true ↔ c = ':' ∨ c = '-' := by
  simp [isSeparator]

theorem octet?_eq_some_iff : octet? a b = some o ↔ IsOctet a b o := by
  have hread : octet? a b = some o ↔
      ∃ n, Text.readUnsigned 16 255 [a, b] = .ok n ∧ o = UInt8.ofNat n := by
    unfold octet?
    cases Text.readUnsigned 16 255 [a, b] with
    | ok n => simp [eq_comm]
    | error e => simp
  rw [hread]
  simp only [Text.readUnsigned_sixteen_eq_ok_iff, Text.signed_pair_iff]
  constructor
  · rintro ⟨n, ⟨⟨high, low, hhigh, hlow, rfl⟩ | ⟨rfl, hlow⟩, -⟩, rfl⟩
    · exact .inl ⟨high, low, hhigh, hlow, rfl⟩
    · exact .inr ⟨rfl, n, hlow, rfl⟩
  · rintro (⟨high, low, hhigh, hlow, rfl⟩ | ⟨rfl, low, hlow, rfl⟩)
    · have hh := (Bytes.bounds_of_hexDigit? hhigh).2
      have hl := (Bytes.bounds_of_hexDigit? hlow).2
      exact ⟨_, ⟨.inl ⟨high, low, hhigh, hlow, rfl⟩, by omega⟩, rfl⟩
    · have hl := (Bytes.bounds_of_hexDigit? hlow).2
      exact ⟨low, ⟨.inr ⟨rfl, hlow⟩, by omega⟩, rfl⟩

/-- The parser reads so many parts, and nothing else. -/
theorem readParts_eq_some_iff {count : Nat} :
    readParts count cs = some octets ↔ Parts IsOctet cs octets ∧ octets.length = count := by
  fun_induction readParts count cs generalizing octets with
  | case1 a b =>
    rw [parts_pair_iff, Option.map_eq_some_iff]
    constructor
    · rintro ⟨o, ho, rfl⟩
      exact ⟨⟨o, octet?_eq_some_iff.mp ho, rfl⟩, rfl⟩
    · rintro ⟨⟨o, ho, rfl⟩, -⟩
      exact ⟨o, octet?_eq_some_iff.mpr ho, rfl⟩
  | case2 count a b separator rest ih =>
    rw [parts_cons_iff]
    constructor
    · intro h
      obtain ⟨o, ho, h⟩ := Option.bind_eq_some_iff.mp h
      by_cases hs : isSeparator separator = true
      · rw [if_pos hs] at h
        obtain ⟨others, hothers, h⟩ := Option.bind_eq_some_iff.mp h
        cases h
        obtain ⟨hparts, hlength⟩ := ih.mp hothers
        exact ⟨⟨o, octet?_eq_some_iff.mp ho, isSeparator_iff.mp hs, others, hparts, rfl⟩,
          congrArg Nat.succ hlength⟩
      · rw [if_neg hs] at h
        cases h
    · rintro ⟨⟨o, ho, hs, others, hparts, rfl⟩, hlength⟩
      have hothers := ih.mpr ⟨hparts, Nat.succ.inj hlength⟩
      refine Option.bind_eq_some_iff.mpr ⟨o, octet?_eq_some_iff.mpr ho, ?_⟩
      rw [if_pos (isSeparator_iff.mpr hs)]
      exact Option.bind_eq_some_iff.mpr ⟨others, hothers, rfl⟩
  | case3 count cs hpair hcons =>
    refine ⟨nofun, fun ⟨hparts, hlength⟩ => ?_⟩
    cases hparts with
    | last h => exact (hpair _ _ hlength.symm rfl).elim
    | cons h hs hrest => exact (hcons _ _ _ _ _ hlength.symm rfl).elim

/-! ## Texts -/

theorem ofBytes?_octets (mac : MacAddr) : ofBytes? mac.octets = some mac := by
  obtain ⟨octets, h⟩ := mac
  have htake : octets.take 6 = octets := List.take_of_length_le (Nat.le_of_eq h)
  simp only [ofBytes?, dif_pos (Nat.le_of_eq h.symm), htake]

theorem parse_eq_ok_iff {s : String} {mac : MacAddr} :
    parse s = .ok mac ↔ Parts IsOctet s.toList mac.octets := by
  have hread : readParts 6 s.toList = some mac.octets ↔ Parts IsOctet s.toList mac.octets := by
    rw [readParts_eq_some_iff]
    exact and_iff_left mac.length_octets
  rw [← hread]
  unfold parse parse?
  cases hr : readParts 6 s.toList with
  | none => simp
  | some octets =>
    have hlength : octets.length = 6 := (readParts_eq_some_iff.mp hr).2
    have hof : ofBytes? octets = some ⟨octets, hlength⟩ := ofBytes?_octets ⟨octets, hlength⟩
    obtain ⟨others, h⟩ := mac
    simp [hof, MacAddr.mk.injEq]

/-- How a character of an address comes back: letters in upper case, separators as colons, and a
plus sign, which adds nothing to the value, as a zero. -/
def shown (c : Char) : Char := if c = '+' then '0' else if c = '-' then ':' else c.toUpper

theorem shown_of_hexDigit? {c : Char} {v : Nat} (h : hexDigit? c = some v) :
    shown c = (Nat.digitChar v).toUpper := by
  have hplus : c ≠ '+' := by rintro rfl; cases hexDigit?_plus.symm.trans h
  have hminus : c ≠ '-' := by rintro rfl; revert h; simp [show hexDigit? '-' = none by decide]
  rw [shown, if_neg hplus, if_neg hminus, Bytes.upperDigit_of_hexDigit? h]

theorem hexByte_of_isOctet (h : IsOctet a b o) : hexByte o = [shown a, shown b] := by
  rcases h with ⟨high, low, hhigh, hlow, rfl⟩ | ⟨rfl, low, hlow, rfl⟩
  · rw [Bytes.hexByte_ofNat (Bytes.bounds_of_hexDigit? hhigh).2 (Bytes.bounds_of_hexDigit? hlow).2,
      shown_of_hexDigit? hhigh, shown_of_hexDigit? hlow]
  · have hzero := Bytes.hexByte_ofNat (Nat.zero_lt_succ 15) (Bytes.bounds_of_hexDigit? hlow).2
    rw [Nat.mul_zero, Nat.zero_add] at hzero
    rw [hzero, shown_of_hexDigit? hlow]
    rfl

theorem shown_separator {c : Char} (h : c = ':' ∨ c = '-') : shown c = ':' := by
  rcases h with rfl | rfl <;> rfl

/-- An address that was read is shown character by character. -/
theorem colonHex_of_parts (h : Parts IsOctet cs octets) : colonHex octets = cs.map shown := by
  induction h with
  | last h => exact hexByte_of_isOctet h
  | @cons a b separator o cs octets h hs hrest ih =>
    have hne : octets ≠ [] := by rintro rfl; cases hrest
    rw [colonHex.eq_3 o octets hne, ih, hexByte_of_isOctet h]
    simp [shown_separator hs]

/-- What is shown is pairs of digits. -/
theorem parts_colonHex (hne : octets ≠ []) : Parts HexPair (colonHex octets) octets := by
  have hpair (o : UInt8) : HexPair (Nat.digitChar (o.toNat / 16)).toUpper
      (Nat.digitChar (o.toNat % 16)).toUpper o := by
    have ho := o.toNat_lt
    refine ⟨o.toNat / 16, o.toNat % 16, Bytes.hexDigit?_upperDigit _ (by omega),
      Bytes.hexDigit?_upperDigit _ (by omega), ?_⟩
    rw [Nat.div_add_mod, UInt8.ofNat_toNat]
  fun_induction colonHex octets with
  | case1 => exact absurd rfl hne
  | case2 o => exact .last (hpair o)
  | case3 o rest hrest ih => exact .cons (hpair o) (.inl rfl) (ih hrest)

theorem parse_eq_error_iff {s : String} {e : ParseError} :
    parse s = .error e ↔ e = ⟨s⟩ ∧ ∀ mac, parse s ≠ .ok mac := by
  unfold parse
  cases parse? s with
  | none => simp [eq_comm]
  | some mac => simp

/-- Whether a text is treated as the rule of six pairs of digits has it: it is the address of the
pairs, and if it is not made of pairs it is refused. -/
def ReadsPairs (s : String) : Prop :=
  (∀ mac, parse s = .ok mac ↔ Parts HexPair s.toList mac.octets) ∧
  ((∀ mac : MacAddr, ¬ Parts HexPair s.toList mac.octets) → parse s = .error ⟨s⟩)

/-- Pairs of digits are all there is where no plus sign occurs. -/
theorem Parts.pairs (h : Parts IsOctet cs octets) (hplus : '+' ∉ cs) : Parts HexPair cs octets := by
  induction h with
  | last h =>
    refine .last (h.resolve_right ?_)
    rintro ⟨rfl, -⟩
    simp at hplus
  | cons h hs _ ih =>
    refine .cons (h.resolve_right ?_) hs (ih fun hmem => hplus (by simp [hmem]))
    rintro ⟨rfl, -⟩
    simp at hplus

/-- In pairs of digits no plus sign occurs. -/
theorem Parts.not_mem_plus (h : Parts HexPair cs octets) : '+' ∉ cs := by
  have hdigits {a b : Char} {o : UInt8} (h : HexPair a b o) : a ≠ '+' ∧ b ≠ '+' := by
    obtain ⟨high, low, hhigh, hlow, -⟩ := h
    constructor
    · rintro rfl
      cases hexDigit?_plus.symm.trans hhigh
    · rintro rfl
      cases hexDigit?_plus.symm.trans hlow
  induction h with
  | last h => simp [(hdigits h).1.symm, (hdigits h).2.symm]
  | cons h hs _ ih => rcases hs with rfl | rfl <;> simp [(hdigits h).1.symm, (hdigits h).2.symm, ih]

/-- The rule is kept except where a text with a plus sign is taken for an address. -/
theorem readsPairs_iff {s : String} : ReadsPairs s ↔ ('+' ∈ s.toList → parse s = .error ⟨s⟩) := by
  by_cases hplus : '+' ∈ s.toList
  · have hno (mac : MacAddr) : ¬ Parts HexPair s.toList mac.octets :=
      fun h => h.not_mem_plus hplus
    constructor
    · exact fun h _ => h.2 hno
    · intro h
      refine ⟨fun mac => ?_, fun _ => h hplus⟩
      exact iff_of_false ((parse_eq_error_iff.mp (h hplus)).2 mac) (hno mac)
  · refine iff_of_true ⟨fun mac => ?_, fun hno => ?_⟩ fun h => absurd h hplus
    · rw [parse_eq_ok_iff]
      exact ⟨fun h => h.pairs hplus, fun h => h.imp fun _ _ _ => .inl⟩
    · refine parse_eq_error_iff.mpr ⟨rfl, fun mac h => hno mac ?_⟩
      exact (parse_eq_ok_iff.mp h).pairs hplus

theorem parse_toText (mac : MacAddr) : parse mac.toText = .ok mac := by
  have hne : mac.octets ≠ [] := List.ne_nil_of_length_pos (mac.length_octets ▸ Nat.zero_lt_succ 5)
  rw [parse_eq_ok_iff, toText, String.toList_ofList]
  exact (parts_colonHex hne).imp fun _ _ _ => .inl

theorem toText_of_parse {s : String} {mac : MacAddr} (h : parse s = .ok mac) :
    mac.toText = String.ofList (s.toList.map shown) := by
  rw [toText, colonHex_of_parts (parse_eq_ok_iff.mp h)]

/-- A text is an address exactly if it is six parts with one separator between neighbours, each of
two hexadecimal digits or of a plus sign and one digit, and the octets are their values; every
other text is refused and told back. So the rule of six pairs of digits is kept exactly where no
text with a plus sign is taken for an address. An address that is shown is read back, and one that
was read is shown as the text in upper case with colons, and with a zero for a plus sign. -/
theorem parse_exact (s : String) :
    (∀ mac, parse s = .ok mac ↔ Parts IsOctet s.toList mac.octets) ∧
    (∀ e, parse s = .error e ↔ e = ⟨s⟩ ∧ ∀ mac : MacAddr, ¬ Parts IsOctet s.toList mac.octets) ∧
    (ReadsPairs s ↔ ('+' ∈ s.toList → parse s = .error ⟨s⟩)) ∧
    (∀ mac : MacAddr, parse mac.toText = .ok mac) ∧
    (∀ mac, parse s = .ok mac → mac.toText = String.ofList (s.toList.map shown)) := by
  refine ⟨fun mac => parse_eq_ok_iff, fun e => ?_, readsPairs_iff, parse_toText,
    fun mac h => toText_of_parse h⟩
  rw [parse_eq_error_iff]
  exact and_congr_right fun _ => forall_congr' fun mac => not_congr parse_eq_ok_iff

/-- Hyphens are read, and colons are shown. -/
theorem parse_exact_hyphens :
    let mac : MacAddr := ⟨[0x00, 0x1A, 0x2B, 0x3C, 0x4D, 0x5E], rfl⟩
    parse "00-1a-2B-3c-4D-5e" = .ok mac ∧ mac.toText = "00:1A:2B:3C:4D:5E" := by
  have hread : parse "00-1a-2B-3c-4D-5e" = .ok ⟨[0x00, 0x1A, 0x2B, 0x3C, 0x4D, 0x5E], rfl⟩ := rfl
  exact ⟨hread, (parse_exact "00-1a-2B-3c-4D-5e").2.2.2.2 _ hread⟩

/-- A plus sign and a digit stand for an octet, though they are no pair of digits. -/
theorem not_readsPairs_plus : ¬ ReadsPairs "+1:00:00:00:00:00" := by
  have hread : parse "+1:00:00:00:00:00" = .ok ⟨[1, 0, 0, 0, 0, 0], rfl⟩ := rfl
  intro h
  exact ((h.1 _).mp hread).not_mem_plus (by decide)

end MacAddr

end PacketLink
