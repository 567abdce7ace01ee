import PacketLink.CommandLine.Basic
import PacketLink.Proofs.Config.Checks
import PacketLink.Proofs.Text.Numeral

/-!
# Texts that are read as protocols

* `IsSap numeral cs n`: the characters `cs` are a decimal numeral of `n`, or a hexadecimal one after
  `0x` or `0X`, where `numeral` says what a numeral is.
* `parseSap_eq_ok_iff`: the parser reads these with numerals that may have a plus sign, up to 32
  bits, and nothing else.
* `ReadsDigits s`: `s` is treated as the rule of digits without a sign has it. That is so except
  where a text with a plus sign is read (`readsDigits_iff`).
* `Yields`: a command line with the text for its protocol makes the settings of a session. Where all
  other settings are valid this depends on the range of the protocol only (`yields_iff`).
* `parseSap_exact`: all of this together.
-/

namespace PacketLink

namespace Config

variable {pageSize : Nat} {c : Config} {session session' : SessionConfig} {n : Nat}

/-- With another protocol, settings are valid exactly if it is in range, and nothing else of the
session changes. -/
theorem validate_withSap (h : c.validate pageSize = .ok session) :
    { c with linkSap := some n }.validate pageSize = .ok session' ↔
      (1 ≤ n ∧ n ≤ 0xFFFF) ∧ session' = { session with linkSap := .ofNat n } := by
  have hp := validate_eq_ok_iff.mp h
  by_cases hn : 1 ≤ n ∧ n ≤ 0xFFFF
  · have hp' : Passed pageSize { c with linkSap := some n }
        { session with linkSap := .ofNat n } :=
      ⟨hp.role, hp.delay, if_pos hn, hp.interface, hp.kind, hp.frames, hp.payload⟩
    rw [validate_eq_ok_iff.mpr hp', Except.ok.injEq]
    exact ⟨fun he => ⟨hn, he.symm⟩, fun he => he.2.symm⟩
  · refine iff_of_false (fun h' => ?_) fun he => hn he.1
    have hsap : { c with linkSap := some n }.sap = .error (.linkSap n) := if_neg hn
    cases hsap.symm.trans (validate_eq_ok_iff.mp h').sap

end Config

namespace CommandLine

open Text Bytes

variable {s : String} {cs : List Char} {x : Char} {n : Nat}

/-! ## Numerals with a prefix -/

/-- A numeral of a protocol: decimal, or hexadecimal after a prefix. -/
inductive IsSap (numeral : (Char → Option Nat) → Nat → List Char → Nat → Prop) :
    List Char → Nat → Prop
  | decimal {cs : List Char} {n : Nat} (h : numeral decimalDigit? 10 cs n) : IsSap numeral cs n
  | hexadecimal {x : Char} {cs : List Char} {n : Nat} (hx : x = 'x' ∨ x = 'X')
      (h : numeral hexDigit? 16 cs n) : IsSap numeral ('0' :: x :: cs) n

/-- A prefix is in no decimal numeral. -/
theorem isSap_prefixed_iff (hx : x = 'x' ∨ x = 'X') :
    IsSap Signed ('0' :: x :: cs) n ↔ Signed hexDigit? 16 cs n := by
  refine ⟨fun h => ?_, .hexadecimal hx⟩
  cases h with
  | hexadecimal _ h => exact h
  | decimal h =>
    have hnone : decimalDigit? x = none := by rcases hx with rfl | rfl <;> rfl
    rcases h with h | ⟨rest, hcons, -⟩
    · exact absurd (by simp) (h.not_mem hnone)
    · cases hcons

theorem isSap_plain_iff (hx : ∀ rest, cs ≠ '0' :: 'x' :: rest)
    (hX : ∀ rest, cs ≠ '0' :: 'X' :: rest) : IsSap Signed cs n ↔ Signed decimalDigit? 10 cs n := by
  refine ⟨fun h => ?_, .decimal⟩
  cases h with
  | decimal h => exact h
  | hexadecimal hprefix _ =>
    rcases hprefix with rfl | rfl
    · exact absurd rfl (hx _)
    · exact absurd rfl (hX _)

theorem parseSap_eq_ok_iff : parseSap s = .ok n ↔ IsSap Signed s.toList n ∧ n ≤ maxWord := by
  unfold parseSap
  split
  · rename_i digits hs
    rw [readUnsigned_sixteen_eq_ok_iff, hs, isSap_prefixed_iff (.inl rfl)]
  · rename_i digits hs
    rw [readUnsigned_sixteen_eq_ok_iff, hs, isSap_prefixed_iff (.inr rfl)]
  · rename_i hx hX
    rw [readUnsigned_ten_eq_ok_iff, isSap_plain_iff hx hX]

/-! ## Signs -/

/-- Whether a text is treated as the rule of digits without a sign has it. -/
def ReadsDigits (s : String) : Prop :=
  ∀ n, parseSap s = .ok n ↔ IsSap Numeral s.toList n ∧ n ≤ maxWord

theorem IsSap.imp {numeral other : (Char → Option Nat) → Nat → List Char → Nat → Prop}
    (himp : ∀ digit? radix cs n, numeral digit? radix cs n → other digit? radix cs n)
    (h : IsSap numeral cs n) : IsSap other cs n := by
  cases h with
  | decimal h => exact .decimal (himp _ _ _ _ h)
  | hexadecimal hx h => exact .hexadecimal hx (himp _ _ _ _ h)

/-- Digits are all there is where no plus sign occurs. -/
theorem IsSap.unsigned (h : IsSap Signed cs n) (hplus : '+' ∉ cs) : IsSap Numeral cs n := by
  cases h with
  | decimal h =>
    refine .decimal (h.resolve_right ?_)
    rintro ⟨rest, rfl, -⟩
    exact hplus List.mem_cons_self
  | hexadecimal hx h =>
    refine .hexadecimal hx (h.resolve_right ?_)
    rintro ⟨rest, rfl, -⟩
    exact hplus (by simp)

/-- In digits no plus sign occurs. -/
theorem IsSap.not_mem_plus (h : IsSap Numeral cs n) : '+' ∉ cs := by
  cases h with
  | decimal h => exact h.not_mem rfl
  | hexadecimal hx h =>
    have hrest := h.not_mem hexDigit?_plus
    rcases hx with rfl | rfl <;> simp [hrest]

/-- The rule is kept except where a text with a plus sign is read. -/
theorem readsDigits_iff : ReadsDigits s ↔ ('+' ∈ s.toList → ∀ n, parseSap s ≠ .ok n) := by
  constructor
  · intro h hplus n hn
    exact ((h n).mp hn).1.not_mem_plus hplus
  · intro h n
    constructor
    · intro hn
      obtain ⟨hsap, hle⟩ := parseSap_eq_ok_iff.mp hn
      exact ⟨hsap.unsigned fun hplus => h hplus n hn, hle⟩
    · rintro ⟨hsap, hle⟩
      exact parseSap_eq_ok_iff.mpr ⟨hsap.imp fun _ _ _ _ => .inl, hle⟩

/-! ## Sessions -/

variable {line line' : CommandLine} {contentOf : String → Except Errno Bytes} {pageSize : Nat}
  {session : SessionConfig}

theorem assign_linkSap_eq_ok_iff : line.assign .linkSap s = .ok line' ↔
    ∃ n, parseSap s = .ok n ∧ line' = { line with linkSap := some n } := by
  unfold assign
  cases parseSap s with
  | error e => exact iff_of_false nofun (by simp)
  | ok n =>
    constructor
    · intro h
      exact ⟨n, rfl, (Except.ok.inj h).symm⟩
    · rintro ⟨m, hm, rfl⟩
      cases hm
      rfl

/-- With another protocol on the command line, only the protocol of the settings is another one. -/
theorem config_withSap {m : Nat} {c : Config}
    (h : { line with linkSap := some m }.config contentOf = .ok c) (n : Nat) :
    { line with linkSap := some n }.config contentOf = .ok { c with linkSap := some n } := by
  unfold config at h ⊢
  cases hfile : line.file with
  | none =>
    simp only [hfile] at h ⊢
    cases h
    rfl
  | some path =>
    simp only [hfile] at h ⊢
    obtain ⟨base, hbase, hc⟩ := Except.bind_eq_ok_iff.mp h
    cases hc
    exact Except.bind_eq_ok_iff.mpr ⟨base, hbase, rfl⟩

/-- A command line with this text for its protocol makes the settings of a session. -/
def Yields (line : CommandLine) (contentOf : String → Except Errno Bytes) (pageSize : Nat)
    (s : String) (session : SessionConfig) : Prop :=
  ∃ line' c, line.assign .linkSap s = .ok line' ∧ line'.config contentOf = .ok c ∧
    c.validate pageSize = .ok session

/-- All other settings of a command line are valid: with some protocol it makes the settings of a
session. -/
def OthersValid (line : CommandLine) (contentOf : String → Except Errno Bytes) (pageSize : Nat) :
    Prop :=
  ∃ n c session, { line with linkSap := some n }.config contentOf = .ok c ∧
    c.validate pageSize = .ok session

theorem yields_of_parse (hv : line.OthersValid contentOf pageSize) (hn : parseSap s = .ok n)
    (hrange : 1 ≤ n ∧ n ≤ 0xFFFF) : ∃ session, line.Yields contentOf pageSize s session := by
  obtain ⟨m, c, session, hconfig, hvalid⟩ := hv
  exact ⟨_, _, _, assign_linkSap_eq_ok_iff.mpr ⟨n, hn, rfl⟩, config_withSap hconfig n,
    (Config.validate_withSap hvalid).mpr ⟨hrange, rfl⟩⟩

/-- The protocol of the session is the one that was read. -/
theorem Yields.parse (h : line.Yields contentOf pageSize s session) :
    parseSap s = .ok session.linkSap.toNat ∧
      1 ≤ session.linkSap.toNat ∧ session.linkSap.toNat ≤ 0xFFFF := by
  obtain ⟨line', c, hassign, hconfig, hvalid⟩ := h
  obtain ⟨n, hn, rfl⟩ := assign_linkSap_eq_ok_iff.mp hassign
  -- Settings with a protocol put into them that they have already are the same settings.
  have hsame : { c with linkSap := some n } = c :=
    Except.ok.inj ((config_withSap hconfig n).symm.trans hconfig)
  have hvalid' := hvalid
  rw [← hsame] at hvalid'
  obtain ⟨hrange, hsession⟩ := (Config.validate_withSap hvalid).mp hvalid'
  have hsap : session.linkSap.toNat = n := by
    rw [hsession, UInt16.toNat_ofNat']
    exact Nat.mod_eq_of_lt (by omega)
  rw [hsap]
  exact ⟨hn, hrange⟩

theorem yields_iff (hv : line.OthersValid contentOf pageSize) :
    (∃ session, line.Yields contentOf pageSize s session) ↔
      ∃ n, parseSap s = .ok n ∧ 1 ≤ n ∧ n ≤ 0xFFFF := by
  constructor
  · rintro ⟨session, h⟩
    exact ⟨_, h.parse⟩
  · rintro ⟨n, hn, hrange⟩
    exact yields_of_parse hv hn hrange

/-- A text is a protocol exactly if it is a decimal numeral, or a hexadecimal one after `0x` or
`0X`, of a value of at most 32 bits, and the numeral may have a plus sign. So the rule of digits
alone is kept exactly where no text with a plus sign is read. Where the other settings are valid, it
makes a session exactly if the value has at most sixteen bits and is not zero, and that value is the
protocol of the session. -/
theorem parseSap_exact (s : String) :
    (∀ n, parseSap s = .ok n ↔ IsSap Signed s.toList n ∧ n ≤ maxWord) ∧
    (ReadsDigits s ↔ ('+' ∈ s.toList → ∀ n, parseSap s ≠ .ok n)) ∧
    (∀ (line : CommandLine) contentOf pageSize, line.OthersValid contentOf pageSize →
      ((∃ session, line.Yields contentOf pageSize s session) ↔
        ∃ n, parseSap s = .ok n ∧ 1 ≤ n ∧ n ≤ 0xFFFF)) ∧
    (∀ (line : CommandLine) contentOf pageSize session,
      line.Yields contentOf pageSize s session → parseSap s = .ok session.linkSap.toNat) :=
  ⟨fun _ => parseSap_eq_ok_iff, readsDigits_iff, fun _ _ _ => yields_iff,
    fun _ _ _ _ h => h.parse.1⟩

/-- A receiver of raw frames, on a command line without a file. -/
def plainReceiver : CommandLine := { receive := true, interface := some "lo", frame := some .raw }

theorem plainReceiver_othersValid :
    plainReceiver.OthersValid (fun _ => .error .noSuchDevice) 4096 :=
  ⟨1, _, _, rfl, rfl⟩

/-- A protocol in hexadecimal makes a session. -/
theorem parseSap_exact_hexadecimal : parseSap "0x88b5" = .ok 0x88B5 ∧
    ∃ session, plainReceiver.Yields (fun _ => .error .noSuchDevice) 4096 "0x88b5" session :=
  have hread : parseSap "0x88b5" = .ok 0x88B5 := rfl
  ⟨hread, ((parseSap_exact "0x88b5").2.2.1 _ _ _ plainReceiver_othersValid).mpr
    ⟨_, hread, by decide, by decide⟩⟩

/-- A plus sign after the prefix is read over, though it is no digit. -/
theorem not_readsDigits_plus : ¬ ReadsDigits "0x+10" := by
  have hread : parseSap "0x+10" = .ok 16 := rfl
  intro h
  exact ((h _).mp hread).1.not_mem_plus (by decide)

end CommandLine

end PacketLink
