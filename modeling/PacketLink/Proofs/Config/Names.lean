import Mathlib.Data.List.TakeWhile
import PacketLink.Proofs.Computation
import PacketLink.Proofs.Config.Checks

/-!
# Names of interfaces

* `utf8ByteSize_truncateName_le`, `truncateName_ne_empty`: what is kept of a name has room in the
  system's record of an interface, and something is kept of every name.
* `Resolver.unusableName?_eq_none_iff`: the system can be asked for a name exactly if it has from
  one to fifteen bytes and no NUL.
* `Resolver.askSystem_gives`: asked for such a name, the system gives no configuration error.
* `Config.NamesAgree`: a name that has passed the check of the settings is never a configuration
  error when the interface is looked up.
* `Config.namesAgree_iff`: that is so except for names with a NUL in them, which the check lets
  pass. The length of a name that has passed is never in the way.
-/

namespace PacketLink

/-! ## What is kept of a name -/

theorem utf8ByteSize_ofList_cons (c : Char) (cs : List Char) :
    (String.ofList (c :: cs)).utf8ByteSize = c.utf8Size + (String.ofList cs).utf8ByteSize := by
  rw [String.ofList_cons, String.utf8ByteSize_append, String.utf8ByteSize_singleton]

theorem utf8ByteSize_takeBytes_le (room : Nat) (cs : List Char) :
    (String.ofList (takeBytes room cs)).utf8ByteSize ≤ room := by
  induction cs generalizing room with
  | nil => simp [takeBytes]
  | cons c cs ih =>
    by_cases hc : c.utf8Size ≤ room
    · have hrest := ih (room - c.utf8Size)
      rw [takeBytes, if_pos hc, utf8ByteSize_ofList_cons]
      omega
    · rw [takeBytes, if_neg hc]
      simp

theorem utf8ByteSize_truncateName_le (name : String) :
    (truncateName name).utf8ByteSize ≤ maxInterfaceName := utf8ByteSize_takeBytes_le ..

/-- The first character always has room. -/
theorem truncateName_ne_empty {name : String} (h : name ≠ "") : truncateName name ≠ "" := by
  cases hcs : name.toList with
  | nil => exact absurd (String.toList_eq_nil_iff.mp hcs) h
  | cons c cs =>
    have hroom : c.utf8Size ≤ maxInterfaceName :=
      Nat.le_trans c.utf8Size_le_four (by decide)
    rw [truncateName, hcs, takeBytes, if_pos hroom, ne_eq, String.ofList_eq_empty_iff]
    exact List.cons_ne_nil _ _

/-! ## What the system can be asked for -/

namespace Resolver

theorem toNat_eq_zero_iff {c : Char} : c.toNat = 0 ↔ c = '\x00' := by
  rw [← Char.toNat_inj]
  rfl

theorem nulPosition?_eq_none_iff {name : String} :
    nulPosition? name = none ↔ '\x00' ∉ name.toList := by
  unfold nulPosition?
  constructor
  · intro h hmem
    have hlength : ¬ (name.toList.takeWhile fun c => c.toNat ≠ 0).length < name.toList.length := by
      simpa using h
    have hall : name.toList.takeWhile (fun c => c.toNat ≠ 0) = name.toList :=
      (List.takeWhile_prefix _).eq_of_length
        (Nat.le_antisymm (List.takeWhile_prefix _).length_le (Nat.not_lt.mp hlength))
    rw [← hall] at hmem
    have hzero := List.all_eq_true.mp (List.all_takeWhile ..) _ hmem
    simp at hzero
  · intro h
    have hall : name.toList.takeWhile (fun c => c.toNat ≠ 0) = name.toList := by
      rw [List.takeWhile_eq_self_iff]
      intro c hc
      have hne : c.toNat ≠ 0 := fun h0 => h (toNat_eq_zero_iff.mp h0 ▸ hc)
      simpa using hne
    rw [hall, if_neg (Nat.lt_irrefl _)]

/-- A name of some length, but not too long, and without a NUL. -/
theorem unusableName?_eq_none_iff {name : String} :
    unusableName? name = none ↔
      name ≠ "" ∧ name.utf8ByteSize ≤ maxInterfaceName ∧ '\x00' ∉ name.toList := by
  rw [← nulPosition?_eq_none_iff]
  unfold unusableName?
  by_cases hlength : name.utf8ByteSize = 0 ∨ maxInterfaceName < name.utf8ByteSize
  · rw [if_pos hlength]
    refine iff_of_false nofun fun ⟨hne, hroom, _⟩ => ?_
    rcases hlength with hzero | hlong
    · exact hne (String.utf8ByteSize_eq_zero_iff.mp hzero)
    · omega
  · have hne : name ≠ "" := fun h => hlength (.inl (String.utf8ByteSize_eq_zero_iff.mpr h))
    have hroom : name.utf8ByteSize ≤ maxInterfaceName := by omega
    rw [if_neg hlength]
    cases nulPosition? name with
    | none => simp [hne, hroom]
    | some position => simp

theorem configuration_of_unusableName? {name : String} {e : LinkError}
    (h : unusableName? name = some e) : ∃ text, e = .configuration text := by
  unfold unusableName? at h
  split at h
  · cases h
    exact ⟨_, rfl⟩
  · split at h <;> cases h
    exact ⟨_, rfl⟩

/-- Not the error of a setting that is not usable. -/
def IsLookup (answer : Except LinkError α) : Prop := ∀ text, answer ≠ .error (.configuration text)

theorem isLookup_setup (operation : String) (cause : Errno) :
    IsLookup (.error (.setup operation cause) : Except LinkError α) := by
  intro text
  unfold LinkError.setup
  split <;> simp

theorem hardwareAddress_gives (name : String) : Gives IsLookup (hardwareAddress name) := by
  refine .then fun socket => ?_
  cases socket with
  | error e => exact .pure (isLookup_setup _ e)
  | ok s =>
    refine .then fun outcome => .then fun _ => .pure ?_
    cases outcome with
    | ok mac => exact nofun
    | error e =>
      by_cases he : e = .noSuchDevice ∨ e = .noSuchAddress
      · simp only [if_pos he]
        exact nofun
      · simp only [if_neg he]
        exact isLookup_setup _ e

/-- Asked for a name that it can be asked for, the system gives no configuration error. -/
theorem askSystem_gives {name : String} (h : unusableName? name = none) :
    Gives IsLookup (askSystem name) := by
  unfold askSystem
  rw [h]
  refine .then fun outcome => ?_
  match outcome with
  | .error e =>
    refine .pure fun text => ?_
    unfold lookupFailure
    split <;> simp
  | .ok 0 => exact .pure nofun
  | .ok (index + 1) =>
    refine .bind (hardwareAddress_gives name) fun answer ha => ?_
    cases answer with
    | error e => exact .pure fun text he => ha text (by cases he; rfl)
    | ok mac => exact .pure nofun

/-- The system gives a configuration error exactly for the names that it cannot be asked for,
whatever the host. -/
theorem isLookup_resolve_iff {name : String} (h : Host) :
    IsLookup ((system.resolve name).run h).1 ↔ unusableName? name = none := by
  constructor
  · intro hl
    cases hu : unusableName? name with
    | none => rfl
    | some e =>
      obtain ⟨text, rfl⟩ := configuration_of_unusableName? hu
      refine absurd ?_ (hl text)
      rw [resolve, askSystem, hu, run_pure]
  · exact fun hu => askSystem_gives hu h

end Resolver

namespace Config

/-- A name that has passed the check is never a configuration error when the interface is looked
up, whatever the host. -/
def NamesAgree (pageSize : Nat) (c : Config) : Prop :=
  ∀ s, c.validate pageSize = .ok s → ∀ (h : Host) (text : String),
    ((Resolver.system.resolve s.interface).run h).1 ≠ .error (.configuration text)

variable {pageSize : Nat} {c : Config} {s : SessionConfig}

/-- The name that has passed the check is neither empty nor too long. -/
theorem Passed.interface_fits (h : Passed pageSize c s) :
    s.interface ≠ "" ∧ s.interface.utf8ByteSize ≤ maxInterfaceName := by
  obtain ⟨name, hname, hinterface⟩ := h.interface
  have hne : name ≠ "" := by
    rintro rfl
    unfold interfaceName at hname
    split at hname
    · cases hname
    · split at hname <;> cases hname
      contradiction
  rw [hinterface]
  exact ⟨truncateName_ne_empty hne, utf8ByteSize_truncateName_le name⟩

/-- The length of a name that has passed the check is never in the way when the interface is looked
up, and the check and the lookup agree on the name exactly if there is no NUL in what was kept of
it. -/
theorem namesAgree_iff (pageSize : Nat) (c : Config) :
    (∀ s, c.validate pageSize = .ok s →
      s.interface ≠ "" ∧ s.interface.utf8ByteSize ≤ maxInterfaceName) ∧
    (NamesAgree pageSize c ↔ ∀ s, c.validate pageSize = .ok s → '\x00' ∉ s.interface.toList) := by
  have hfits (s : SessionConfig) (hs : c.validate pageSize = .ok s) :=
    (validate_eq_ok_iff.mp hs).interface_fits
  refine ⟨hfits, forall_congr' fun s => forall_congr' fun hs => ?_⟩
  obtain ⟨hne, hroom⟩ := hfits s hs
  have husable : Resolver.unusableName? s.interface = none ↔ '\x00' ∉ s.interface.toList := by
    rw [Resolver.unusableName?_eq_none_iff]
    simp [hne, hroom]
  rw [← husable]
  constructor
  · exact fun h => (Resolver.isLookup_resolve_iff (.ofScript {})).mp (h (.ofScript {}))
  · exact fun h host => (Resolver.isLookup_resolve_iff host).mpr h

/-- A tab does not matter, and neither does a character that the end of the room cuts. -/
theorem namesAgree_iff_wide :
    let c : Config := { mode := some .receive, linkSap := some 1, frame := some .raw,
                        interface := some "\tnp0s31f6-äöü" }
    NamesAgree 4096 c := by
  intro c
  have hvalid : c.validate 4096 =
      .ok ⟨.receiver, "\tnp0s31f6-äö", .raw, 1, 0, none, 10⟩ := by decide
  refine (namesAgree_iff 4096 c).2.mpr fun s hs => ?_
  cases hvalid.symm.trans hs
  decide

/-- A name with a NUL passes the check, and is a configuration error when it is looked up. -/
theorem not_namesAgree_nul :
    let c : Config := { mode := some .receive, linkSap := some 1, frame := some .raw,
                        interface := some "eth\x00" }
    ¬ NamesAgree 4096 c := by
  intro c h
  have hvalid : c.validate 4096 = .ok ⟨.receiver, "eth\x00", .raw, 1, 0, none, 10⟩ := by decide
  exact h _ hvalid (.ofScript {}) _ rfl

end Config

end PacketLink
