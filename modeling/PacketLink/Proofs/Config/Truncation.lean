import Mathlib.Order.Bounds.Basic
import PacketLink.Proofs.Config.Names

/-!
# What is kept of a name

* `truncateName_longest`: a name of at most fifteen bytes is kept. Of a longer one the longest
  beginning is kept that has room and does not cut a character, twelve bytes at least. What is kept
  does not change any more, and does not depend on what follows the first fifteen bytes.
* `cutBack?`: the same part found from the other side, byte by byte from the end of the room back
  to the nearest boundary between characters. The search could leave the text at its beginning, and
  a text cannot be cut inside a character; neither happens.
* `isPrefix_takeBytes`: no beginning that has room is longer than what is kept.
-/

namespace PacketLink

/-! ## Beginnings of a list of characters -/

variable {room : Nat} {cs ds : List Char}

theorem takeBytes_isPrefix (room : Nat) (cs : List Char) : takeBytes room cs <+: cs := by
  induction cs generalizing room with
  | nil => exact List.prefix_refl []
  | cons c cs ih =>
    by_cases hc : c.utf8Size ≤ room
    · rw [takeBytes, if_pos hc]
      exact List.cons_prefix_cons.mpr ⟨rfl, ih _⟩
    · rw [takeBytes, if_neg hc]
      exact List.nil_prefix

theorem isPrefix_takeBytes (h : ds <+: cs) (hroom : (String.ofList ds).utf8ByteSize ≤ room) :
    ds <+: takeBytes room cs := by
  induction cs generalizing ds room with
  | nil => exact h
  | cons c cs ih =>
    cases ds with
    | nil => exact List.nil_prefix
    | cons d ds =>
      obtain ⟨rfl, hds⟩ := List.cons_prefix_cons.mp h
      rw [utf8ByteSize_ofList_cons] at hroom
      have hd : d.utf8Size ≤ room := by omega
      rw [takeBytes, if_pos hd]
      exact List.cons_prefix_cons.mpr ⟨rfl, ih hds (by omega)⟩

theorem takeBytes_of_le (h : (String.ofList cs).utf8ByteSize ≤ room) : takeBytes room cs = cs :=
  (takeBytes_isPrefix room cs).eq_of_length_le
    (isPrefix_takeBytes (List.prefix_refl cs) h).length_le

/-- A character that has no more room takes at most four bytes. -/
theorem lt_utf8ByteSize_takeBytes (h : room < (String.ofList cs).utf8ByteSize) :
    room < (String.ofList (takeBytes room cs)).utf8ByteSize + 4 := by
  induction cs generalizing room with
  | nil => exact absurd h (Nat.not_lt_zero _)
  | cons c cs ih =>
    rw [utf8ByteSize_ofList_cons] at h
    by_cases hc : c.utf8Size ≤ room
    · have hleft : room - c.utf8Size < (String.ofList cs).utf8ByteSize := by omega
      have hrest := ih hleft
      rw [takeBytes, if_pos hc, utf8ByteSize_ofList_cons]
      omega
    · have hfour := c.utf8Size_le_four
      omega

/-- What begins behind the end of the room does not matter. -/
theorem takeBytes_append (h : room ≤ (String.ofList cs).utf8ByteSize) (ds : List Char) :
    takeBytes room (cs ++ ds) = takeBytes room cs := by
  induction cs generalizing room with
  | nil =>
    obtain rfl : room = 0 := Nat.le_zero.mp h
    cases ds with
    | nil => rfl
    | cons d ds =>
      have hd := d.utf8Size_pos
      show takeBytes 0 (d :: ds) = []
      rw [takeBytes, if_neg (by omega)]
  | cons c cs ih =>
    rw [utf8ByteSize_ofList_cons] at h
    rw [List.cons_append, takeBytes, takeBytes, ih (by omega)]

/-! ## Boundaries between characters -/

/-- The last boundary between characters at or before a place of a text, looked for byte by byte
towards the beginning; before the beginning there is no byte to go on with. -/
def lastBoundary? (text : String) : Nat → Option Nat
  | 0 => if String.Pos.Raw.IsValid text ⟨0⟩ then some 0 else none
  | n + 1 => if String.Pos.Raw.IsValid text ⟨n + 1⟩ then some (n + 1) else lastBoundary? text n

/-- The text before a place. A place inside a character has none. -/
def before? (text : String) (n : Nat) : Option String :=
  if h : String.Pos.Raw.IsValid text ⟨n⟩ then some (String.extract text.startPos ⟨⟨n⟩, h⟩)
  else none

/-- The part of an interface name that the system can hold, cut at the last boundary that it has
room for. -/
def cutBack? (name : String) : Option String :=
  if name.utf8ByteSize ≤ maxInterfaceName then some name
  else (lastBoundary? name maxInterfaceName).bind (before? name)

/-- The longest beginning of a text that ends at a boundary and takes at most `room` bytes. -/
structure LongestWithin (room : Nat) (text start : String) : Prop where
  begins : ∃ rest, text = start ++ rest
  longest : IsGreatest {n | n ≤ room ∧ String.Pos.Raw.IsValid text ⟨n⟩} start.utf8ByteSize

variable {text name : String}

theorem isValid_iff_exists_beginning {n : Nat} : String.Pos.Raw.IsValid text ⟨n⟩ ↔
    ∃ start rest, text = start ++ rest ∧ n = start.utf8ByteSize := by
  rw [String.Pos.Raw.isValid_iff_exists_append]
  simp only [String.Pos.Raw.ext_iff, String.byteIdx_rawEndPos]

theorem lastBoundary?_eq_some {n m : Nat}
    (h : IsGreatest {k | k ≤ n ∧ String.Pos.Raw.IsValid text ⟨k⟩} m) :
    lastBoundary? text n = some m := by
  obtain ⟨⟨hle, hvalid⟩, hgreatest⟩ := h
  induction n with
  | zero =>
    obtain rfl := Nat.le_zero.mp hle
    rw [lastBoundary?, if_pos hvalid]
  | succ n ih =>
    by_cases hn : String.Pos.Raw.IsValid text ⟨n + 1⟩
    · obtain rfl : m = n + 1 := Nat.le_antisymm hle (hgreatest ⟨Nat.le_refl _, hn⟩)
      rw [lastBoundary?, if_pos hn]
    · have hne : m ≠ n + 1 := by rintro rfl; exact hn hvalid
      rw [lastBoundary?, if_neg hn]
      exact ih (fun k hk => hgreatest ⟨Nat.le_succ_of_le hk.1, hk.2⟩) (by omega)

theorem before?_append (start rest : String) :
    before? (start ++ rest) start.utf8ByteSize = some start := by
  have hvalid := isValid_iff_exists_beginning.mpr ⟨start, rest, rfl, rfl⟩
  rw [before?, dif_pos hvalid, Option.some_inj, ← String.toByteArray_inj,
    String.toByteArray_extract, String.toByteArray_append]
  exact ByteArray.extract_append_eq_left rfl

/-- What is longest can be found from behind. -/
theorem LongestWithin.found {start : String} (h : LongestWithin room text start) :
    (lastBoundary? text room).bind (before? text) = some start := by
  obtain ⟨rest, rfl⟩ := h.begins
  rw [lastBoundary?_eq_some h.longest, Option.bind_some, before?_append]

/-! ## Names -/

theorem longestWithin_truncateName (name : String) :
    LongestWithin maxInterfaceName name (truncateName name) := by
  obtain ⟨rest, hrest⟩ := takeBytes_isPrefix maxInterfaceName name.toList
  have hbegins : name = truncateName name ++ String.ofList rest := by
    rw [truncateName, ← String.ofList_append, hrest, String.ofList_toList]
  have hvalid := isValid_iff_exists_beginning.mpr ⟨_, _, hbegins, rfl⟩
  refine ⟨⟨_, hbegins⟩, ⟨utf8ByteSize_truncateName_le name, hvalid⟩, ?_⟩
  rintro n ⟨hroom, hn⟩
  obtain ⟨start, tail, hname, rfl⟩ := isValid_iff_exists_beginning.mp hn
  have hstart : start.toList <+: name.toList := ⟨tail.toList, by rw [← String.toList_append, hname]⟩
  have hfits : (String.ofList start.toList).utf8ByteSize ≤ maxInterfaceName := by
    rwa [String.ofList_toList]
  obtain ⟨more, hmore⟩ := isPrefix_takeBytes hstart hfits
  rw [truncateName, ← hmore, String.ofList_append, String.ofList_toList,
    String.utf8ByteSize_append]
  exact Nat.le_add_right _ _

theorem truncateName_of_le (h : name.utf8ByteSize ≤ maxInterfaceName) :
    truncateName name = name := by
  rw [truncateName, takeBytes_of_le (by rwa [String.ofList_toList]), String.ofList_toList]

theorem lt_utf8ByteSize_truncateName (h : maxInterfaceName < name.utf8ByteSize) :
    maxInterfaceName < (truncateName name).utf8ByteSize + 4 :=
  lt_utf8ByteSize_takeBytes (by rwa [String.ofList_toList])

theorem truncateName_append {shared : String} (h : maxInterfaceName ≤ shared.utf8ByteSize)
    (rest : String) : truncateName (shared ++ rest) = truncateName shared := by
  rw [truncateName, truncateName, String.toList_append,
    takeBytes_append (by rwa [String.ofList_toList])]

theorem cutBack?_eq (name : String) : cutBack? name = some (truncateName name) := by
  by_cases h : name.utf8ByteSize ≤ maxInterfaceName
  · rw [cutBack?, if_pos h, truncateName_of_le h]
  · rw [cutBack?, if_neg h, (longestWithin_truncateName name).found]

/-- What is kept of a name is what the search from behind gives, which always gives something: the
whole name if it has room, and else its longest beginning of at most fifteen bytes. A second time
nothing is taken away, and names that have their first fifteen bytes in common are cut alike. -/
theorem truncateName_longest (name : String) :
    cutBack? name = some (truncateName name) ∧
    (name.utf8ByteSize ≤ 15 → truncateName name = name) ∧
    (15 < name.utf8ByteSize → LongestWithin 15 name (truncateName name) ∧
      12 ≤ (truncateName name).utf8ByteSize ∧ (truncateName name).utf8ByteSize ≤ 15) ∧
    truncateName (truncateName name) = truncateName name ∧
    ∀ shared rest other rest' : String, 15 ≤ shared.utf8ByteSize →
      name = shared ++ rest → other = shared ++ rest' → truncateName name = truncateName other := by
  refine ⟨cutBack?_eq name, truncateName_of_le, fun h => ?_,
    truncateName_of_le (utf8ByteSize_truncateName_le name), ?_⟩
  · have hmost : maxInterfaceName < (truncateName name).utf8ByteSize + 4 :=
      lt_utf8ByteSize_truncateName h
    rw [maxInterfaceName] at hmost
    exact ⟨longestWithin_truncateName name, by omega, utf8ByteSize_truncateName_le name⟩
  · rintro shared rest other rest' hshared rfl rfl
    rw [truncateName_append hshared, truncateName_append hshared]

/-- A character of four bytes stands across the end of the room and goes as a whole. What follows
it makes no difference. -/
theorem truncateName_longest_across :
    let name := "enp0s31f6-ab😀"
    15 < name.utf8ByteSize ∧ LongestWithin 15 name (truncateName name) ∧
      (truncateName name).utf8ByteSize = 12 ∧ truncateName name = truncateName (name ++ "-2") ∧
      truncateName (truncateName name) = truncateName name := by
  intro name
  have hlong : 15 < name.utf8ByteSize := by decide
  obtain ⟨-, -, hlongest, -, hshared⟩ := truncateName_longest name
  refine ⟨hlong, (hlongest hlong).1, by decide, ?_, ?_⟩
  · exact hshared name "" (name ++ "-2") "-2" hlong.le String.append_empty.symm rfl
  · exact (truncateName_longest (truncateName name)).2.1 (by decide)

end PacketLink
