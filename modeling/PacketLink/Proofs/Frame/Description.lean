import PacketLink.Frame.Describe
import PacketLink.Proofs.Frame.Codec
import PacketLink.Proofs.Text.Decimal
import PacketLink.Proofs.Text.Dump

/-!
# Descriptions of frames

* `describe_eq_iff`: frames have the same description exactly if they have the same kind, header,
  payload and length on the wire.

A description is read from its front. The first line ends behind a number and gives the kind and
the length (`opening_inj`), the header lines have a fixed width up to the ethertype, which decides
what follows it (`headerLines_inj`). What is left is told apart from its end: of frames of the same
kind and length the last lines are equally long, so that the line of a partial capture stands in
both descriptions or in none.
-/

namespace PacketLink

theorem toList_append_inj {s s' t t' : String} (hl : s.toList.length = s'.toList.length)
    (h : s ++ t = s' ++ t') : s = s' ∧ t = t' := by
  have hlist := congrArg String.toList h
  simp only [String.toList_append] at hlist
  obtain ⟨hs, ht⟩ := List.append_inj hlist hl
  exact ⟨String.toList_inj.mp hs, String.toList_inj.mp ht⟩

theorem toList_append_inj' {s s' t t' : String} (hl : t.toList.length = t'.toList.length)
    (h : s ++ t = s' ++ t') : s = s' ∧ t = t' := by
  have hlist := congrArg String.toList h
  simp only [String.toList_append] at hlist
  obtain ⟨hs, ht⟩ := List.append_inj' hlist hl
  exact ⟨String.toList_inj.mp hs, String.toList_inj.mp ht⟩

theorem length_hexWord (n : Nat) : (hexWord n).toList.length = 4 := by
  rw [hexWord, String.toList_ofList, Bytes.length_flatMap_hexByte, Bytes.length_bigEndian]

/-- Sixteen bits can be read off a text that opens with their digits. -/
theorem hexWord_append_inj {m n : UInt16} {s t : String}
    (h : hexWord m.toNat ++ s = hexWord n.toNat ++ t) : m = n ∧ s = t := by
  obtain ⟨hword, hrest⟩ := toList_append_inj (by rw [length_hexWord, length_hexWord]) h
  have hbytes := Bytes.flatMap_hexByte_inj (String.ofList_injective hword)
  have hvalue := congrArg Bytes.ofBigEndian hbytes
  rw [Bytes.ofBigEndian_bigEndian, Bytes.ofBigEndian_bigEndian] at hvalue
  have hm := m.toNat_lt
  have hn := n.toNat_lt
  exact ⟨UInt16.toNat_inj.mp (by simpa [Nat.mod_eq_of_lt, hm, hn] using hvalue), hrest⟩

namespace MacAddr

theorem length_toText (mac : MacAddr) : mac.toText.toList.length = 17 := by
  simp [toText, length_colonHex, mac.length_octets]

end MacAddr

namespace Frame

variable {f g : Frame}

/-! ## The lines of a description -/

/-- The first line gives the kind and the length. -/
theorem opening_inj {k l : FrameKind} {m n : Nat} {s t : String}
    (h : k.label ++ " frame, " ++ toString m ++ " bytes\n" ++ s =
      l.label ++ " frame, " ++ toString n ++ " bytes\n" ++ t) : k = l ∧ m = n ∧ s = t := by
  have hlist := congrArg String.toList h
  have hkind : k = l := by
    cases k <;> cases l <;> simp [FrameKind.label] at hlist ⊢
  subst hkind
  simp only [String.toList_append, List.append_assoc, List.append_cancel_left_eq] at hlist
  obtain ⟨hnumber, hrest⟩ := Text.toString_append_inj (by simp) (by simp) hlist
  exact ⟨rfl, hnumber, String.toList_inj.mp (List.append_cancel_left hrest)⟩

theorem addressLine_append_inj {name : String} {a b : MacAddr} {s t : String}
    (h : addressLine name a ++ s = addressLine name b ++ t) : a = b ∧ s = t := by
  obtain ⟨hline, hrest⟩ := toList_append_inj (by simp [addressLine, MacAddr.length_toText]) h
  have htext : a.toText = b.toText := by
    have hlist := congrArg String.toList hline
    simp only [addressLine, String.toList_append, List.append_assoc,
      List.append_cancel_left_eq, List.append_cancel_right_eq] at hlist
    exact String.toList_inj.mp hlist
  exact ⟨MacAddr.toText_inj htext, hrest⟩

/-- The header lines give the header. -/
theorem headerLines_inj {s t : String} (hk : f.header.kind = g.header.kind)
    (h : f.headerLines ++ s = g.headerLines ++ t) : f.header = g.header ∧ s = t := by
  obtain ⟨envelope, header, payload⟩ := f
  obtain ⟨envelope', header', payload'⟩ := g
  cases header <;> cases header' <;> cases hk
  case raw.raw => exact ⟨rfl, by simpa [headerLines] using h⟩
  case ieee8023.ieee8023 =>
    simp only [headerLines, lengthField, String.append_assoc] at h
    obtain ⟨hdest, hsrcs⟩ := addressLine_append_inj h
    obtain ⟨hsrc, hname⟩ := addressLine_append_inj hsrcs
    obtain ⟨-, hword⟩ := toList_append_inj rfl hname
    obtain ⟨hethertype, hrest⟩ := hexWord_append_inj hword
    subst hdest hsrc hethertype
    -- Whether the ethertype is a length is now the same on both sides.
    exact ⟨rfl, by simpa using hrest⟩
  case ieee80211.ieee80211 =>
    simp only [headerLines, String.append_assoc] at h
    obtain ⟨hdest, hsrcs⟩ := addressLine_append_inj h
    obtain ⟨hsrc, hrest⟩ := addressLine_append_inj hsrcs
    subst hdest hsrc
    exact ⟨rfl, hrest⟩

/-- The line of a partial capture, or its absence, gives the length on the wire. -/
theorem capturedLine_inj (hl : f.length = g.length) (hf : f.length ≤ f.wireLength)
    (hg : g.length ≤ g.wireLength) (h : f.capturedLine = g.capturedLine) :
    f.wireLength = g.wireLength := by
  have hlist := congrArg String.toList h
  by_cases hpf : f.isPartial = true <;> by_cases hpg : g.isPartial = true
  · simp only [capturedLine, hpf, hpg, hl, if_true, String.toList_append, List.append_assoc,
      List.append_cancel_left_eq] at hlist
    exact (Text.toString_append_inj (by simp) (by simp) hlist).1
  · simp [capturedLine, hpf, hpg] at hlist
  · simp [capturedLine, hpf, hpg] at hlist
  · have hwf := Nat.not_lt.mp (mt decide_eq_true hpf)
    have hwg := Nat.not_lt.mp (mt decide_eq_true hpg)
    change f.wireLength ≤ f.length at hwf
    change g.wireLength ≤ g.length at hwg
    omega

theorem payloadLine_congr (hk : f.header.kind = g.header.kind)
    (hp : f.payload.length = g.payload.length) :
    f.payloadLine = g.payloadLine := by
  rw [payloadLine, payloadLine, hk, hp]

/-! ## Descriptions -/

/-- A description shows all that is in the frame, and how long it was on the wire. -/
theorem describe_inj (hf : f.IsSealed) (hg : g.IsSealed) (h : f.describe = g.describe) :
    f.kind = g.kind ∧ f.header = g.header ∧ f.payload = g.payload ∧
      f.wireLength = g.wireLength := by
  obtain ⟨hvariant, hl, hlines⟩ :=
    opening_inj (by simpa only [describe, String.append_assoc] using h)
  obtain ⟨hheader, hlast⟩ :=
    headerLines_inj hvariant (by simpa only [String.append_assoc] using hlines)
  have hk : f.kind = g.kind := by rw [hf.kind, hg.kind, hvariant]
  have hpayload : f.payload.length = g.payload.length := by
    rw [hf.length, hg.length, hk] at hl
    omega
  have hdump : (hexDump "    " f.payload).toList.length =
      (hexDump "    " g.payload).toList.length := by
    simp only [hexDump, String.toList_ofList, length_dumpLines, hpayload]
  rw [payloadLine_congr hvariant hpayload] at hlast
  obtain ⟨hcaptured, htail⟩ :=
    toList_append_inj' (by simp only [String.toList_append, List.length_append, hdump]) hlast
  obtain ⟨-, hlines⟩ := toList_append_inj rfl htail
  exact ⟨hk, hheader, dumpLines_inj (String.ofList_injective hlines),
    capturedLine_inj hl hf.le_wireLength hg.le_wireLength hcaptured⟩

/-- The description of a frame that was made shows its kind, its header, its payload and how long
it was on the wire, and depends on nothing else. -/
theorem describe_eq_iff (hf : Made f) (hg : Made g) :
    f.describe = g.describe ↔ f.kind = g.kind ∧ f.header = g.header ∧ f.payload = g.payload ∧
      f.wireLength = g.wireLength := by
  constructor
  · exact describe_inj hf.isSealed hg.isSealed
  · rintro ⟨hkind, hheader, hpayload, hwire⟩
    have hlength : f.length = g.length := by
      rw [hf.isSealed.length, hg.isSealed.length, hkind, hpayload]
    obtain ⟨⟨kind, length, w⟩, header, payload⟩ := f
    obtain ⟨⟨kind', length', w'⟩, header', payload'⟩ := g
    cases hkind
    cases hlength
    cases hwire
    cases hheader
    cases hpayload
    rfl

/-- A part of a long frame, and the same bytes as a whole frame. -/
theorem describe_eq_iff_partial : ∃ f g, Made f ∧ Made g ∧ f.payload = g.payload ∧
    f.describe ≠ g.describe ∧
    (f.describe = g.describe ↔ f.kind = g.kind ∧ f.header = g.header ∧ f.payload = g.payload ∧
      f.wireLength = g.wireLength) := by
  have hf : Made (reading .ieee80211 (List.replicate 13 7) 2000) :=
    .decode (decode_of_le (by decide) 2000)
  have hg : Made (reading .ieee80211 (List.replicate 13 7) 13) :=
    .decode (decode_of_le (by decide) 13)
  refine ⟨_, _, hf, hg, rfl, fun h => ?_, describe_eq_iff hf hg⟩
  have hwire := ((describe_eq_iff hf hg).mp h).2.2.2
  exact absurd hwire (by decide)

end Frame

end PacketLink
