import Mathlib.Algebra.Order.Floor.Div
import Mathlib.GroupTheory.GroupAction.Ring
import PacketLink.Proofs.Text.Hexadecimal

/-!
# The lines of a dump

* `hexDump_exact`: a dump has one line for each eight bytes begun, each with the indent, the pairs
  of its bytes and a line feed. Its length follows, it can be put together from dumps of whole
  lines and no others, and the bytes can be read back from it.
* `dumpLines_append_iff`: two dumps one after the other are a dump exactly if the first ends with
  a whole line or the second is empty.
* `sum_dumpLines`: the size of a dump in any unit in which an ASCII character counts one.
* `dumpLines_inj`: a dump shows its bytes. The indent may hold anything, digits and line feeds
  included, so the lines cannot be told from the text alone; the number of bytes is known from the
  length of the dump, and with it where each line begins.
-/

namespace PacketLink

/-! ## Pairs of digits -/

/-- The digits of base sixteen. -/
def hexDigits : Vector Char 16 :=
  #v['0', '1', '2', '3', '4', '5', '6', '7', '8', '9', 'A', 'B', 'C', 'D', 'E', 'F']

/-- A byte as two digits, the higher one first. -/
def bytePair (b : UInt8) : String :=
  have hb := b.toNat_lt
  String.ofList [hexDigits[b.toNat / 16], hexDigits[b.toNat % 16]]

/-- Line `i` of a dump: the indent, up to eight bytes with a colon between neighbours, and a line
feed. -/
def dumpLine (indent : String) (bytes : Bytes) (i : Nat) : String :=
  indent ++ ":".intercalate (((bytes.drop (8 * i)).take 8).map bytePair) ++ "\n"

theorem hexDigits_get : ∀ n, (h : n < 16) → hexDigits[n] = (Nat.digitChar n).toUpper := by decide

theorem toList_bytePair (b : UInt8) : (bytePair b).toList = Bytes.hexByte b := by
  rw [bytePair, String.toList_ofList, hexDigits_get, hexDigits_get, Bytes.hexByte]

theorem MacAddr.sum_colonHex {w : Char → Nat} (hw : ∀ x, x.toNat < 128 → w x = 1) (b : Bytes) :
    ((colonHex b).map w).sum = 3 * b.length - 1 := by
  have hones : (colonHex b).map w = List.replicate (colonHex b).length 1 :=
    List.map_eq_replicate_iff.mpr fun x hx => hw x (ascii_of_mem_colonHex hx)
  rw [hones, List.sum_replicate_nat, Nat.mul_one, length_colonHex]

/-! ## Lines -/

variable {indent : List Char} {b c : Bytes}

theorem dumpLines_of_ne_nil (h : b ≠ []) : dumpLines indent b =
    indent ++ MacAddr.colonHex (b.take 8) ++ '\n' :: dumpLines indent (b.drop 8) := by
  obtain ⟨x, xs, rfl⟩ := List.exists_cons_of_ne_nil h
  rw [dumpLines, bytesPerLine]

theorem dumpLines_of_length_le (h : b ≠ []) (hl : b.length ≤ 8) :
    dumpLines indent b = indent ++ MacAddr.colonHex b ++ ['\n'] := by
  rw [dumpLines_of_ne_nil h, List.take_of_length_le hl, List.drop_eq_nil_of_le hl, dumpLines]

/-- The number of lines grows with each eight bytes. -/
theorem ceilDiv_eight {n : Nat} (h : 0 < n) : n ⌈/⌉ 8 = (n - 8) ⌈/⌉ 8 + 1 := by
  rw [Nat.ceilDiv_eq_add_pred_div, Nat.ceilDiv_eq_add_pred_div]
  omega

theorem sum_dumpLines {w : Char → Nat} (hw : ∀ x, x.toNat < 128 → w x = 1) (indent : List Char)
    (b : Bytes) : ((dumpLines indent b).map w).sum =
      3 * b.length + b.length ⌈/⌉ 8 * (indent.map w).sum := by
  fun_induction dumpLines indent b with
  | case1 => simp
  | case2 x rest ih =>
    have hfeed : w '\n' = 1 := hw '\n' (by decide)
    have hpos : 0 < (x :: rest).length := Nat.succ_pos _
    rw [bytesPerLine, List.length_drop] at ih
    rw [List.map_append, List.map_append, List.map_cons, List.sum_append, List.sum_append,
      List.sum_cons, bytesPerLine, ih, MacAddr.sum_colonHex hw, hfeed, List.length_take,
      ceilDiv_eight hpos, Nat.add_mul, Nat.one_mul]
    omega

theorem length_dumpLines (indent : List Char) (b : Bytes) :
    (dumpLines indent b).length = 3 * b.length + b.length ⌈/⌉ 8 * indent.length := by
  have hsum := sum_dumpLines (w := fun _ => 1) (fun _ _ => rfl) indent b
  simpa using hsum

/-- The length of a dump gives the number of bytes, however long the indent is. -/
theorem strictMono_dumpLength (k : Nat) : StrictMono fun n : Nat => 3 * n + n ⌈/⌉ 8 * k := by
  refine strictMono_nat_of_lt_succ fun n => ?_
  have hlines : n ⌈/⌉ 8 ≤ (n + 1) ⌈/⌉ 8 := by
    rw [Nat.ceilDiv_eq_add_pred_div, Nat.ceilDiv_eq_add_pred_div]
    omega
  have hindents := Nat.mul_le_mul_right k hlines
  omega

/-- Of equally many bytes each line begins at the same place in both dumps. -/
theorem dumpLines_inj_of_length (hl : b.length = c.length)
    (h : dumpLines indent b = dumpLines indent c) : b = c := by
  fun_induction dumpLines indent b generalizing c with
  | case1 => exact (List.length_eq_zero_iff.mp hl.symm).symm
  | case2 x rest ih =>
    have hc : c ≠ [] := by rintro rfl; exact Nat.succ_ne_zero _ hl
    rw [bytesPerLine] at h ih
    have htake : ((x :: rest).take 8).length = (c.take 8).length := by
      rw [List.length_take, List.length_take, hl]
    have hdrop : ((x :: rest).drop 8).length = (c.drop 8).length := by
      rw [List.length_drop, List.length_drop, hl]
    rw [dumpLines_of_ne_nil hc, List.append_assoc, List.append_assoc] at h
    obtain ⟨hline, htail⟩ := List.append_inj (List.append_cancel_left h)
      (by rw [MacAddr.length_colonHex, MacAddr.length_colonHex, htake])
    have hthis := MacAddr.colonHex_inj htake hline
    have hrest := ih hdrop (List.cons.inj htail).2
    rw [← List.take_append_drop 8 (x :: rest), hthis, hrest, List.take_append_drop]

theorem dumpLines_inj (h : dumpLines indent b = dumpLines indent c) : b = c := by
  have hlength := congrArg List.length h
  rw [length_dumpLines, length_dumpLines] at hlength
  exact dumpLines_inj_of_length ((strictMono_dumpLength indent.length).injective hlength) h

/-! ## Dumps of parts -/

/-- Whole lines are shown the same whatever follows them. -/
theorem dumpLines_append (h : 8 ∣ b.length) (c : Bytes) :
    dumpLines indent (b ++ c) = dumpLines indent b ++ dumpLines indent c := by
  fun_induction dumpLines indent b with
  | case1 => rfl
  | case2 x rest ih =>
    have hwhole : 8 ≤ (x :: rest).length := Nat.le_of_dvd (Nat.succ_pos _) h
    rw [bytesPerLine] at ih ⊢
    have hrest := ih (by rw [List.length_drop]; exact Nat.dvd_sub h (Nat.dvd_refl 8))
    rw [dumpLines_of_ne_nil (by simp), List.take_append_of_le_length hwhole,
      List.drop_append_of_le_length hwhole, hrest]
    simp only [List.append_assoc, List.cons_append]

/-- A line that was not whole does not end where it ended before. -/
theorem dumpLines_append_ne (hb : b ≠ []) (hl : b.length < 8) (hc : c ≠ []) :
    dumpLines indent (b ++ c) ≠ dumpLines indent b ++ dumpLines indent c := by
  have hnext : c.take (8 - b.length) ≠ [] := by
    rw [ne_eq, List.take_eq_nil_iff]
    rintro (h | h)
    · omega
    · exact hc h
  rw [dumpLines_of_ne_nil (by simp [hb]), dumpLines_of_length_le hb hl.le, List.take_append,
    List.take_of_length_le hl.le, MacAddr.colonHex_append hb hnext]
  intro h
  simp only [List.append_assoc, List.append_cancel_left_eq, List.cons_append] at h
  exact absurd (List.cons.inj h).1 (by decide)

theorem dumpLines_append_iff (indent : List Char) (b c : Bytes) :
    dumpLines indent (b ++ c) = dumpLines indent b ++ dumpLines indent c ↔
      8 ∣ b.length ∨ c = [] := by
  constructor
  · intro h
    by_contra hnot
    obtain ⟨hpart, hc⟩ := not_or.mp hnot
    -- The whole lines of the first part cancel, what is left of it is less than a line.
    let whole := 8 * (b.length / 8)
    have hwhole : 8 ∣ (b.take whole).length := by
      rw [List.length_take, Nat.min_eq_left (Nat.mul_div_le _ _)]
      exact Nat.dvd_mul_right 8 _
    have hleft : (b.drop whole).length = b.length % 8 := by
      rw [List.length_drop]
      omega
    rw [← List.take_append_drop whole b, List.append_assoc, dumpLines_append hwhole,
      dumpLines_append hwhole, List.append_assoc, List.append_cancel_left_eq] at h
    refine dumpLines_append_ne ?_ ?_ hc h
    · rw [← List.length_pos_iff, hleft]
      omega
    · rw [hleft]
      omega
  · rintro (h | rfl)
    · exact dumpLines_append h c
    · rw [dumpLines, List.append_nil, List.append_nil]

theorem dumpLines_eq_flatMap (indent : List Char) (b : Bytes) : dumpLines indent b =
    (List.range (b.length ⌈/⌉ 8)).flatMap fun i =>
      indent ++ MacAddr.colonHex ((b.drop (8 * i)).take 8) ++ ['\n'] := by
  fun_induction dumpLines indent b with
  | case1 => simp
  | case2 x rest ih =>
    have hpos : 0 < (x :: rest).length := Nat.succ_pos _
    rw [bytesPerLine] at ih ⊢
    rw [ceilDiv_eight hpos, List.range_succ_eq_map, List.flatMap_cons, List.flatMap_map, ih,
      List.length_drop]
    simp only [List.drop_drop, Nat.mul_zero, List.drop_zero, Nat.mul_succ, Nat.add_comm 8,
      List.append_assoc, List.singleton_append]

/-! ## Dumps -/

theorem toList_dumpLine (indent : String) (b : Bytes) (i : Nat) : (dumpLine indent b i).toList =
    indent.toList ++ MacAddr.colonHex ((b.drop (8 * i)).take 8) ++ ['\n'] := by
  have hpairs (bs : Bytes) : (bs.map bytePair).map String.toList = bs.map Bytes.hexByte := by
    rw [List.map_map]
    exact List.map_congr_left fun x _ => toList_bytePair x
  simp only [dumpLine, String.toList_append, String.toList_intercalate, hpairs,
    MacAddr.colonHex_eq_intercalate]
  rfl

theorem hexDump_eq_join (indent : String) (b : Bytes) : hexDump indent b =
    String.join ((List.range (b.length ⌈/⌉ 8)).map (dumpLine indent b)) := by
  rw [← String.toList_inj, hexDump, String.toList_ofList, dumpLines_eq_flatMap,
    String.toList_join, List.flatMap_map]
  simp only [toList_dumpLine]

theorem length_hexDump (indent : String) (b : Bytes) :
    (hexDump indent b).length = 3 * b.length + b.length ⌈/⌉ 8 * indent.length := by
  rw [← String.length_toList, hexDump, String.toList_ofList, length_dumpLines,
    String.length_toList]

theorem sum_utf8Size (cs : List Char) :
    (cs.map Char.utf8Size).sum = (String.ofList cs).utf8ByteSize := by
  induction cs with
  | nil => rfl
  | cons c cs ih =>
    rw [List.map_cons, List.sum_cons, ih, String.ofList_cons, String.utf8ByteSize_append,
      String.utf8ByteSize_singleton]

theorem utf8ByteSize_hexDump (indent : String) (b : Bytes) :
    (hexDump indent b).utf8ByteSize = 3 * b.length + b.length ⌈/⌉ 8 * indent.utf8ByteSize := by
  have hascii (x : Char) (hx : x.toNat < 128) : x.utf8Size = 1 := by
    rw [Char.utf8Size_eq_one_iff, UInt32.le_iff_toNat_le]
    exact Nat.le_of_lt_succ hx
  rw [hexDump, ← sum_utf8Size, sum_dumpLines hascii, sum_utf8Size, String.ofList_toList]

/-- A dump has one line for each eight bytes begun, and nothing else, so its length, in bytes and
in characters, depends on the number of bytes and on the indent only. Whole lines can be shown
before the rest, and only they can. Whatever the indent holds, the bytes can be read off a dump. -/
theorem hexDump_exact (indent : String) :
    (∀ b : Bytes,
      (hexDump indent b).utf8ByteSize = 3 * b.length + b.length ⌈/⌉ 8 * indent.utf8ByteSize ∧
      (hexDump indent b).length = 3 * b.length + b.length ⌈/⌉ 8 * indent.length ∧
      hexDump indent b = String.join ((List.range (b.length ⌈/⌉ 8)).map (dumpLine indent b))) ∧
    (∀ a b : Bytes, hexDump indent (a ++ b) = hexDump indent a ++ hexDump indent b ↔
      8 ∣ a.length ∨ b = []) ∧
    Function.Injective (hexDump indent) := by
  refine ⟨fun b => ⟨utf8ByteSize_hexDump .., length_hexDump .., hexDump_eq_join ..⟩,
    fun a b => ?_, fun b c h => dumpLines_inj (String.ofList_injective h)⟩
  rw [← dumpLines_append_iff indent.toList, hexDump, hexDump, hexDump,
    ← String.ofList_append, String.ofList_inj]

/-- Ten bytes behind an indent that looks like digits and ends a line. -/
example : hexDump "0F\n" [0, 1, 2, 3, 4, 5, 6, 7, 0x8A, 255] =
    "0F\n00:01:02:03:04:05:06:07\n0F\n8A:FF\n" := by decide +kernel

end PacketLink
