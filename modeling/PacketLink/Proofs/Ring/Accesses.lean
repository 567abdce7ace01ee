import PacketLink.Proofs.Host.Mapping
import PacketLink.Proofs.Ring.Service

/-!
# Where a call on a ring reads and writes

The slots of a ring are one stretch of bytes, and a call computes addresses in it from numbers that
the kernel may change at any moment.

* `Accesses`: a program that reads and writes byte ranges, or gets stuck. What it reads may come
  from memory (`Accesses.run`), or from a kernel that writes while the program runs:
  `Accesses.Confined` says that whatever is read no access leaves a range, nothing gets stuck, and
  the answer is as it should be.
* `Operation.accesses`: the accesses of a call, with every address computed. An index past the last
  slot and a difference below zero get stuck.
* `FitsIn`: the extent of a slot is inside of it. So it is for every slot that a ring gives out,
  whatever the kernel has written into the header (`Service.Reachable.fitsIn`).
* `accesses_contained`: the accesses of a call stay in the slot at the cursor, and they do to
  memory what the call does.
-/

namespace PacketLink

open SlotMemory

variable {α β : Type}

/-! ## Programs that access memory -/

/-- A program that reads and writes ranges of one stretch of bytes. -/
inductive Accesses (α : Type) where
  | done (a : α)
  | load (address length : Nat) (next : Bytes → Accesses α)
  | store (address : Nat) (bytes : Bytes) (next : Accesses α)
  /-- There is no such address or number. -/
  | stuck

namespace Accesses

/-- One program after the other. -/
def bind (p : Accesses α) (k : α → Accesses β) : Accesses β :=
  match p with
  | done a => k a
  | load address length next => load address length fun bytes => (next bytes).bind k
  | store address bytes next => store address bytes (next.bind k)
  | stuck => stuck

instance : Monad Accesses where
  pure := done
  bind := bind

/-- Runs a program on memory that nobody else writes to. -/
def run : Accesses α → Bytes → Option (α × Bytes)
  | done a, m => some (a, m)
  | load address length next, m =>
    if address + length ≤ m.length then (next ((m.drop address).take length)).run m else none
  | store address bytes next, m =>
    if address + bytes.length ≤ m.length then next.run (overlay m address bytes) else none
  | stuck, _ => none

/-- Whatever it reads, the program accesses nothing outside a range, does not get stuck, and gives
something of which `post` holds. -/
def Confined (low high : Nat) (post : α → Prop) : Accesses α → Prop
  | done a => post a
  | load address length next =>
    low ≤ address ∧ address + length ≤ high ∧
      ∀ bytes, bytes.length = length → (next bytes).Confined low high post
  | store address bytes next =>
    low ≤ address ∧ address + bytes.length ≤ high ∧ next.Confined low high post
  | stuck => False

/-- The number of `width` bytes at an address. -/
def number (address width : Nat) : Accesses Nat :=
  load address width fun bytes => done (Bytes.ofLittleEndian bytes)

/-- The bytes from an address on. -/
def extract (address length : Nat) : Accesses Bytes := load address length done

/-- Writes bytes from an address on. -/
def put (address : Nat) (bytes : Bytes) : Accesses Unit := store address bytes (done ())

/-- The difference of two numbers, if it is one. -/
def minus (a b : Nat) : Accesses Nat := if b ≤ a then done (a - b) else stuck

instance : LawfulMonad Accesses :=
  LawfulMonad.mk' Accesses
    (fun p => by
      show p.bind done = p
      induction p with
      | done a => rfl
      | load address length next ih => exact congrArg (load address length) (funext ih)
      | store address bytes next ih => exact congrArg (store address bytes) ih
      | stuck => rfl)
    (fun _ _ => rfl)
    (fun p q k => by
      show (p.bind q).bind k = p.bind fun a => (q a).bind k
      induction p with
      | done a => rfl
      | load address length next ih => exact congrArg (load address length) (funext ih)
      | store address bytes next ih => exact congrArg (store address bytes) ih
      | stuck => rfl)

theorem bind_eq (p : Accesses α) (k : α → Accesses β) : p >>= k = p.bind k := rfl

variable {low high : Nat} {p : Accesses α} {k : α → Accesses β} {m : Bytes} {post : α → Prop}
  {post' : β → Prop}

theorem Confined.bind (hp : p.Confined low high post)
    (hk : ∀ a, post a → (k a).Confined low high post') : (p >>= k).Confined low high post' := by
  rw [bind_eq]
  induction p with
  | done a => exact hk a hp
  | load address length next ih => exact ⟨hp.1, hp.2.1, fun bytes hb => ih bytes (hp.2.2 bytes hb)⟩
  | store address bytes next ih => exact ⟨hp.1, hp.2.1, ih hp.2.2⟩
  | stuck => exact hp.elim

theorem confined_number {address width : Nat} (hl : low ≤ address) (hh : address + width ≤ high) :
    (number address width).Confined low high fun _ => True := ⟨hl, hh, fun _ _ => trivial⟩

theorem confined_put {address : Nat} {bytes : Bytes} (hl : low ≤ address)
    (hh : address + bytes.length ≤ high) : (put address bytes).Confined low high fun _ => True :=
  ⟨hl, hh, trivial⟩

/-- A confined program runs to its end and changes nothing outside its range. -/
theorem Confined.run_eq (hp : p.Confined low high post) (hm : high ≤ m.length) :
    ∃ a m', p.run m = some (a, m') ∧ post a ∧ m'.length = m.length ∧
      ∀ x, x < low ∨ high ≤ x → m'[x]? = m[x]? := by
  induction p generalizing m with
  | done a => exact ⟨a, m, rfl, hp, rfl, fun _ _ => rfl⟩
  | load address length next ih =>
    obtain ⟨-, hh, hnext⟩ := hp
    have hin : address + length ≤ m.length := by omega
    obtain ⟨a, m', hrun, hkeep⟩ := ih _ (hnext ((m.drop address).take length) (by simp; omega)) hm
    exact ⟨a, m', by rw [run, if_pos hin, hrun], hkeep⟩
  | store address bytes next ih =>
    obtain ⟨hl, hh, hnext⟩ := hp
    have hin : address + bytes.length ≤ m.length := by omega
    obtain ⟨a, m', hrun, ha, hlen, hkeep⟩ :=
      ih hnext (m := overlay m address bytes) (by simpa using hm)
    refine ⟨a, m', by rw [run, if_pos hin, hrun], ha, by simpa using hlen, ?_⟩
    intro x hx
    rw [hkeep x hx, getElem?_overlay, if_neg (by omega)]
  | stuck => exact hp.elim

/-! ## Accesses inside a slot -/

variable {s : SlotMemory} {size i o : Nat} {address : Nat}

/-- A slot has the bytes from its address to that of the next one. -/
theorem extent_le (hm : s.IsUniform size) (hi : i < s.count) {n : Nat} (h : o + n ≤ size)
    (ha : address = i * size + o) : address + n ≤ s.contents.length := by
  have hend := end_le_length_contents hm hi
  rw [Nat.succ_mul] at hend
  omega

theorem run_extract (hm : s.IsUniform size) (hi : i < s.count) {n : Nat} (h : o + n ≤ size)
    (ha : address = i * size + o) (k : Bytes → Accesses β) :
    (extract address n >>= k).run s.contents = (k (s.read i o n)).run s.contents := by
  show (load address n k).run s.contents = _
  rw [run, if_pos (extent_le hm hi h ha), ha, ← read_eq_contents hm h]

theorem run_number (hm : s.IsUniform size) (hi : i < s.count) {width : Nat}
    (h : o + width ≤ size) (ha : address = i * size + o) (k : Nat → Accesses β) :
    (number address width >>= k).run s.contents = (k (s.word i o width)).run s.contents :=
  run_extract hm hi h ha fun bytes => k (Bytes.ofLittleEndian bytes)

theorem run_put (hm : s.IsUniform size) (hi : i < s.count) {bytes : Bytes}
    (h : o + bytes.length ≤ size) (ha : address = i * size + o) (k : Unit → Accesses β) :
    (put address bytes >>= k).run s.contents = (k ()).run (s.write i o bytes).contents := by
  show (store address bytes (k ())).run s.contents = _
  rw [run, if_pos (extent_le hm hi h ha), ha, contents_write hm hi h]

end Accesses

namespace Ring

open Host Accesses

/-! ## The accesses of a call -/

/-- The address of a slot. -/
def headerAt (r : Ring) (index : Nat) : Accesses Nat :=
  if index < r.capacity then pure (index * r.slotSize) else .stuck

/-- Reads the status word of a slot. -/
def loadStatus (r : Ring) (index : Nat) : Accesses Nat := do
  number (← r.headerAt index) 8

/-- Writes the status word of a slot. -/
def storeStatus (r : Ring) (index word : Nat) : Accesses Unit := do
  put (← r.headerAt index) (Bytes.littleEndian 8 word)

/-- The accesses of a call that is not refused. -/
def Operation.body (r : Ring) : Operation → Accesses Reply
  | .acquireRead => do
    let word ← r.loadStatus r.cursor
    if isUser word then
      let header ← r.headerAt r.cursor
      let wireLength ← number (header + 8) 4
      let captured ← number (header + 12) 4
      let offset ← number (header + 16) 2
      let payloadOffset := min offset r.slotSize
      let room ← minus r.slotSize payloadOffset
      pure (.slot (some {
        index := r.cursor
        status := if isCopy word then .error else .ownedByUser
        headerOffset := r.cursor * r.slotSize
        payloadOffset
        frameBytes := min captured room
        wireLength }))
    else pure (.slot none)
  | .payload slot => do
    let bytes ← extract (slot.headerOffset + slot.payloadOffset) slot.frameBytes
    pure (.data bytes)
  | .releaseRead => do
    r.storeStatus r.cursor free
    pure .done
  | .acquireWrite => do
    let word ← r.loadStatus r.cursor
    match WriteClaim.ofWord word with
    | .given status =>
      let room ← minus r.slotSize sendOffset
      pure (.slot (some {
        index := r.cursor
        status
        headerOffset := r.cursor * r.slotSize
        payloadOffset := sendOffset
        frameBytes := room
        wireLength := 0 }))
    | .waiting | .unmarked => pure (.slot none)
  | .submitWrite slot frame => do
    let header ← r.headerAt slot.index
    put (header + sendOffset) frame
    put (header + 8) (Bytes.littleEndian 4 frame.length)
    r.storeStatus slot.index sendRequest
    pure .done

/-- The accesses of a call. To refuse one takes none. -/
def Operation.accesses (r : Ring) (op : Operation) : Accesses (Except LinkError Reply) :=
  match op.refusal? r with
  | some e => pure (.error e)
  | none => do
    let reply ← op.body r
    pure (.ok reply)

/-! ## The extent of slots -/

/-- A slot of a ring that is made so has an extent inside of it. -/
structure FitsIn (l : Layout) (slot : Slot) : Prop where
  index_lt : slot.index < l.capacity
  headerOffset : slot.headerOffset = slot.index * l.slotSize
  inside : slot.payloadOffset + slot.frameBytes ≤ l.slotSize
  send : l.direction = .send → slot.payloadOffset = sendOffset

variable {r r₀ : Ring} {h h₀ : Host} {m : SlotMemory} {op : Operation} {slot : Slot}

/-- Whatever a header says, a slot for reading has its extent inside. -/
theorem fitsIn_clamped (hlt : r.cursor < r.capacity) (hd : r.direction = .receive)
    (status : SlotStatus) (offset captured wireLength : Nat) :
    FitsIn r.layout {
      index := r.cursor
      status
      headerOffset := r.cursor * r.slotSize
      payloadOffset := min offset r.slotSize
      frameBytes := min captured (r.slotSize - min offset r.slotSize)
      wireLength } := by
  refine ⟨hlt, rfl, ?_, fun he => ?_⟩
  · show min offset r.slotSize + min captured (r.slotSize - min offset r.slotSize) ≤ r.slotSize
    omega
  · cases hd.symm.trans he

theorem fitsIn_room (hlt : r.cursor < r.capacity) (hp : sendOffset ≤ r.slotSize)
    (status : SlotStatus) :
    FitsIn r.layout {
      index := r.cursor
      status
      headerOffset := r.cursor * r.slotSize
      payloadOffset := sendOffset
      frameBytes := r.slotSize - sendOffset
      wireLength := 0 } := by
  refine ⟨hlt, rfl, ?_, fun _ => rfl⟩
  show sendOffset + (r.slotSize - sendOffset) ≤ r.slotSize
  omega

/-- The slots that are given out with an answer have their extent inside. -/
def GivesFitting (l : Layout) (answer : Except LinkError Reply) : Prop :=
  ∀ slot, slot ∈ Reply.given answer → FitsIn l slot

theorem direction_of_acquireRead (hn : Operation.acquireRead.refusal? r = none) :
    r.direction = .receive := by
  cases hd : r.direction with
  | receive => rfl
  | send => simp [Operation.refusal?, hd] at hn

/-- The slots that a call gives out are inside. -/
theorem Backed.givesFitting (hb : r.Backed h) (hp : sendOffset ≤ r.slotSize) (op : Operation) :
    GivesFitting r.layout ((op.run r).run h).1.1 := by
  intro slot hs
  cases hn : op.refusal? r with
  | some e =>
    rw [Operation.run_refused hn] at hs
    cases hs
  | none =>
    obtain ⟨h₁, hrun⟩ := performed hb hn
    rw [hrun.run] at hs
    cases op with
    | acquireRead =>
      have hslot : r.readSlot? (r.memory h) = some slot := Option.mem_toList.mp hs
      simp only [readSlot?, Option.ite_none_right_eq_some, Option.some.injEq] at hslot
      obtain ⟨-, rfl⟩ := hslot
      exact fitsIn_clamped hb.cursor_lt (direction_of_acquireRead hn) ..
    | acquireWrite =>
      have hslot : r.writeSlot? (r.memory h) = some slot := Option.mem_toList.mp hs
      obtain ⟨status, -, rfl⟩ := writeSlot?_eq_some_iff.mp hslot
      exact fitsIn_room hb.cursor_lt hp ..
    | payload | releaseRead => cases hs
    | submitWrite slot' frame =>
      simp only [Operation.tells, if_true] at hs
      cases ht : r.told h₁ <;> rw [ht] at hs <;> cases hs

/-- Every slot that a ring ever gave out is inside. -/
theorem Service.Reachable.fitsIn {s : Service} (hs : s.Reachable h₀ r₀) (hf : r₀.Blank h₀)
    (hp : sendOffset ≤ r₀.slotSize) (hslot : slot ∈ s.returned) : FitsIn r₀.layout slot := by
  induction hs with
  | start => cases hslot
  | @step s _ hs ht ih =>
    cases ht with
    | @call op ha =>
      rcases List.mem_append.mp hslot with hold | hnew
      · exact ih hold
      · have hl := hs.layout_eq hf
        have hsize : s.ring.slotSize = r₀.slotSize := congrArg Layout.slotSize hl
        rw [← hl]
        exact (hs.backed hf).givesFitting (by omega) op slot hnew
    | kernel hw => exact ih hslot

/-! ## The accesses stay in the slot -/

theorem headerAt_eq {index : Nat} (hi : index < r.capacity) :
    r.headerAt index = pure (index * r.slotSize) := if_pos hi

theorem minus_eq {a b : Nat} (h : b ≤ a) : minus a b = pure (a - b) := if_pos h

theorem confined_loadStatus (hlt : r.cursor < r.capacity) (hp : sendOffset ≤ r.slotSize) :
    (r.loadStatus r.cursor).Confined (r.cursor * r.slotSize) ((r.cursor + 1) * r.slotSize)
      fun _ => True := by
  unfold sendOffset at hp
  rw [loadStatus, headerAt_eq hlt, Nat.succ_mul]
  exact confined_number (Nat.le_refl _) (by omega)

theorem confined_storeStatus (hlt : r.cursor < r.capacity) (hp : sendOffset ≤ r.slotSize)
    (word : Nat) : (r.storeStatus r.cursor word).Confined (r.cursor * r.slotSize)
      ((r.cursor + 1) * r.slotSize) fun _ => True := by
  unfold sendOffset at hp
  rw [storeStatus, headerAt_eq hlt, Nat.succ_mul]
  exact confined_put (Nat.le_refl _) (by rw [Bytes.length_littleEndian]; omega)

theorem payload_accepted (hn : (Operation.payload slot).refusal? r = none) :
    r.claimed = true ∧ slot.index = r.cursor := by
  simpa [Operation.refusal?] using hn

/-- Whatever it reads, a call that is not refused accesses the slot at the cursor only, and gives
out no slot with an extent that is not inside. -/
theorem confined_body (hlt : r.cursor < r.capacity) (hp : sendOffset ≤ r.slotSize)
    (hn : op.refusal? r = none) (hs : ∀ slot, op.slot? = some slot → FitsIn r.layout slot) :
    (op.body r).Confined (r.cursor * r.slotSize) ((r.cursor + 1) * r.slotSize)
      fun reply => GivesFitting r.layout (.ok reply) := by
  have hload := confined_loadStatus hlt hp
  have hstore := confined_storeStatus hlt hp
  have hsize := hp
  unfold sendOffset at hsize
  have hend : (r.cursor + 1) * r.slotSize = r.cursor * r.slotSize + r.slotSize := Nat.succ_mul ..
  have hone (slot : Slot) (hfit : FitsIn r.layout slot) :
      GivesFitting r.layout (.ok (.slot (some slot))) := by
    intro slot' hslot
    rw [List.mem_singleton.mp hslot]
    exact hfit
  cases op with
  | acquireRead =>
    refine hload.bind fun word _ => ?_
    split
    · rw [headerAt_eq hlt]
      refine (confined_number (by omega) (by omega)).bind fun wireLength _ => ?_
      refine (confined_number (by omega) (by omega)).bind fun captured _ => ?_
      refine (confined_number (by omega) (by omega)).bind fun offset _ => ?_
      dsimp only
      rw [minus_eq (Nat.min_le_right ..)]
      exact hone _ (fitsIn_clamped hlt (direction_of_acquireRead hn) ..)
    · exact nofun
  | payload slot =>
    obtain ⟨-, hheader, hin, -⟩ := hs slot rfl
    have hx := (payload_accepted hn).2
    change slot.headerOffset = slot.index * r.slotSize at hheader
    change slot.payloadOffset + slot.frameBytes ≤ r.slotSize at hin
    rw [hx] at hheader
    exact ⟨by omega, by omega, fun _ _ => nofun⟩
  | releaseRead => exact (hstore _).bind fun _ _ => nofun
  | acquireWrite =>
    refine hload.bind fun word _ => ?_
    cases WriteClaim.ofWord word with
    | given status =>
      rw [minus_eq hp]
      exact hone _ (fitsIn_room hlt hp _)
    | waiting | unmarked => exact nofun
  | submitWrite slot frame =>
    obtain ⟨hd, hx, -, hl⟩ := submitRefusal?_eq_none_iff.mp hn
    obtain ⟨-, -, hin, hoff⟩ := hs slot rfl
    change slot.payloadOffset + slot.frameBytes ≤ r.slotSize at hin
    rw [hoff hd] at hin
    unfold sendOffset at hin
    simp only [Operation.body, hx]
    rw [headerAt_eq hlt]
    refine (confined_put (by omega) (by unfold sendOffset; omega)).bind fun _ _ => ?_
    refine (confined_put (by omega) (by rw [Bytes.length_littleEndian]; omega)).bind fun _ _ => ?_
    exact (hstore _).bind fun _ _ => nofun

/-! ## The accesses do what the call does -/

theorem Backed.uniform (hb : r.Backed h) : (r.memory h).IsUniform r.slotSize :=
  fun i hi => hb.size i (hb.count ▸ hi)

theorem run_loadStatus (hm : m.IsUniform r.slotSize) (hc : m.count = r.capacity)
    (hlt : r.cursor < r.capacity) (hp : sendOffset ≤ r.slotSize) (k : Nat → Accesses α) :
    (r.loadStatus r.cursor >>= k).run m.contents = (k (m.status r.cursor)).run m.contents := by
  unfold sendOffset at hp
  rw [loadStatus, headerAt_eq hlt]
  exact run_number hm (hc ▸ hlt) (by omega) (Nat.add_zero _).symm k

theorem run_storeStatus (hm : m.IsUniform r.slotSize) (hc : m.count = r.capacity)
    (hlt : r.cursor < r.capacity) (hp : sendOffset ≤ r.slotSize) (word : Nat)
    (k : Unit → Accesses α) : (r.storeStatus r.cursor word >>= k).run m.contents =
      (k ()).run (m.setStatus r.cursor word).contents := by
  unfold sendOffset at hp
  rw [storeStatus, headerAt_eq hlt]
  exact run_put hm (hc ▸ hlt) (by rw [Bytes.length_littleEndian]; omega) (Nat.add_zero _).symm k

/-- Undisturbed, the accesses of a call that is not refused have its effect. -/
theorem run_body (hm : m.IsUniform r.slotSize) (hc : m.count = r.capacity)
    (hlt : r.cursor < r.capacity) (hp : sendOffset ≤ r.slotSize) (hn : op.refusal? r = none)
    (hs : ∀ slot, op.slot? = some slot → FitsIn r.layout slot) (k : Reply → Accesses α) :
    (op.body r >>= k).run m.contents =
      (k (op.effect r m).reply).run (op.effect r m).memory.contents := by
  have hi : r.cursor < m.count := hc ▸ hlt
  have hsize := hp
  unfold sendOffset at hsize
  cases op with
  | acquireRead =>
    simp only [Operation.body, bind_assoc, Operation.effect, readSlot?]
    rw [run_loadStatus hm hc hlt hp]
    split
    · simp only [headerAt_eq hlt, bind_assoc, pure_bind]
      rw [run_number hm hi (by omega) rfl, run_number hm hi (by omega) rfl,
        run_number hm hi (by omega) rfl, minus_eq (Nat.min_le_right ..)]
      rfl
    · rfl
  | payload slot =>
    obtain ⟨-, hheader, hin, -⟩ := hs slot rfl
    have hx := (payload_accepted hn).2
    rw [hx] at hheader
    simp only [Operation.body, bind_assoc, pure_bind, Operation.effect, hx]
    exact run_extract hm hi hin (by rw [hheader]; rfl) fun bytes => k (.data bytes)
  | releaseRead =>
    simp only [Operation.body, bind_assoc, pure_bind]
    exact run_storeStatus hm hc hlt hp free fun _ => k .done
  | acquireWrite =>
    simp only [Operation.body, bind_assoc, Operation.effect, writeSlot?]
    rw [run_loadStatus hm hc hlt hp]
    cases WriteClaim.ofWord (m.status r.cursor) with
    | given status =>
      rw [minus_eq hp]
      rfl
    | waiting | unmarked => rfl
  | submitWrite slot frame =>
    obtain ⟨hd, hx, -, hl⟩ := submitRefusal?_eq_none_iff.mp hn
    obtain ⟨-, -, hin, hoff⟩ := hs slot rfl
    rw [hoff hd] at hin
    change sendOffset + slot.frameBytes ≤ r.slotSize at hin
    simp only [Operation.body, bind_assoc, pure_bind, headerAt_eq hlt, hx, Operation.effect, fill]
    rw [run_put hm hi (by omega) rfl]
    have hm₁ := isUniform_write hm r.cursor sendOffset frame
    have hc₁ := (count_write m r.cursor sendOffset frame).trans hc
    rw [run_put hm₁ (hc₁ ▸ hlt) (by rw [Bytes.length_littleEndian]; omega) rfl]
    exact run_storeStatus (isUniform_write hm₁ r.cursor 8 _) ((count_write ..).trans hc₁) hlt hp
      sendRequest fun _ => k .done

/-! ## Calls stay in the slot at the cursor -/

/-- Undisturbed, the accesses of a call answer and write what the call does by itself, before it
tells the kernel. -/
def Faithful (r : Ring) (h : Host) (op : Operation) : Prop :=
  ∃ answer h₁,
    (op.accesses r).run (r.memory h).contents = some (answer, (r.memory h₁).contents) ∧
      (((op.run r).run h).1.1 = answer ∧ ((op.run r).run h).2 = h₁ ∨
        op.tells = true ∧ ∃ reply, answer = .ok reply ∧
          ((op.run r).run h).1.1 = (r.told h₁).map (fun _ => reply) ∧
          ((op.run r).run h).2 = r.notified h₁)

/-- A call reads and writes in the slot at the cursor only. -/
structure Contained (r : Ring) (h : Host) (op : Operation) : Prop where
  cursor_lt : r.cursor < r.capacity
  /-- The slot at the cursor is there. -/
  mapped : (r.cursor + 1) * r.slotSize ≤ (r.memory h).contents.length
  /-- Whatever the call reads, no access leaves the slot, no index is past the last slot, no
  difference is below zero, and a slot that is given out has its extent inside. -/
  confined : (op.accesses r).Confined (r.cursor * r.slotSize) ((r.cursor + 1) * r.slotSize)
    (GivesFitting r.layout)
  /-- Whatever is in memory, the call runs to its end and leaves the other slots alone. -/
  safe : ∀ m : Bytes, m.length = (r.memory h).contents.length →
    ∃ answer m', (op.accesses r).run m = some (answer, m') ∧ m'.length = m.length ∧
      ∀ x, x < r.cursor * r.slotSize ∨ (r.cursor + 1) * r.slotSize ≤ x → m'[x]? = m[x]?
  faithful : Faithful r h op

theorem Backed.faithful (hb : r.Backed h) (hp : sendOffset ≤ r.slotSize)
    (hs : ∀ slot, op.slot? = some slot → FitsIn r.layout slot) : Faithful r h op := by
  unfold Faithful Operation.accesses
  cases hn : op.refusal? r with
  | some e =>
    have hrun := Operation.run_refused hn h
    exact ⟨.error e, h, rfl, .inl (by rw [hrun]; exact ⟨rfl, rfl⟩)⟩
  | none =>
    obtain ⟨h₁, hdone⟩ := performed hb hn
    refine ⟨.ok (op.effect r (r.memory h)).reply, h₁, ?_, ?_⟩
    · rw [hdone.memory]
      exact run_body hb.uniform hb.count hb.cursor_lt hp hn hs _
    · rw [hdone.run]
      by_cases ht : op.tells = true
      · rw [if_pos ht]
        exact .inr ⟨ht, _, rfl, rfl, rfl⟩
      · rw [if_neg ht]
        exact .inl ⟨rfl, rfl⟩

/-- However a ring was used and whatever the kernel writes into it, even while a call runs: with
any slot that the ring ever gave out, a call stays in the slot at the cursor. -/
theorem accesses_contained {s : Service} (hf : r₀.Fresh h₀) (hp : 4096 ≤ r₀.slotSize)
    (hs : s.Reachable h₀ r₀) (ha : s.Allows op) : Contained s.ring s.host op := by
  have hb := hs.backed hf.toBlank
  have hl := hs.layout_eq hf.toBlank
  have hsize : sendOffset ≤ s.ring.slotSize := by
    have heq : s.ring.slotSize = r₀.slotSize := congrArg Layout.slotSize hl
    unfold sendOffset
    omega
  have hfit (slot : Slot) (hslot : op.slot? = some slot) : FitsIn s.ring.layout slot := by
    rw [hl]
    exact hs.fitsIn hf.toBlank (by unfold sendOffset; omega) (ha slot hslot)
  have hmapped := end_le_length_contents hb.uniform hb.cursor_lt_count
  have hconf : (op.accesses s.ring).Confined (s.ring.cursor * s.ring.slotSize)
      ((s.ring.cursor + 1) * s.ring.slotSize) (GivesFitting s.ring.layout) := by
    unfold Operation.accesses
    cases hn : op.refusal? s.ring with
    | some e => exact nofun
    | none => exact (confined_body hb.cursor_lt hsize hn hfit).bind fun _ hgiven => hgiven
  refine ⟨hb.cursor_lt, hmapped, hconf, fun m hm => ?_, hb.faithful hsize hfit⟩
  obtain ⟨answer, m', hrun, -, hkeep⟩ := hconf.run_eq (hm ▸ hmapped)
  exact ⟨answer, m', hrun, hkeep⟩

/-- The smallest ring for receiving with slots of a page. -/
def pageRing : Ring := ⟨⟨0⟩, .receive, 4096, 2, 0, false, none, 0⟩

/-- The host of that ring. -/
def pageHost : Host :=
  { script := {}, mappings := #[⟨none, .receive, .zeroed 2 4096, true, 0⟩] }

/-- The kernel hands a slot over with a length that no slot has room for. -/
theorem accesses_contained_page : ∃ s : Service, s.Reachable pageHost pageRing ∧
    s.memory.snapLength 0 = 4294967295 ∧
    s.Allows (.payload ⟨0, .ownedByUser, 0, 64, 4032, 0⟩) ∧
      Contained s.ring s.host (.payload ⟨0, .ownedByUser, 0, 64, 4032, 0⟩) := by
  have hf : pageRing.Fresh pageHost :=
    ⟨⟨(by decide : isFrameCount 2 = true), rfl, rfl, _, rfl, rfl, rfl⟩,
      (by decide : 4096 < Nat.pow 256 4)⟩
  have h₁ := (Service.Reachable.start (h := pageHost) (r := pageRing)).step <|
    .kernel (h := pageHost.onMemory ⟨0⟩ fun m =>
      ((m.setStatus 0 1).setWord 0 12 4 4294967295).setWord 0 16 2 64) <| by
        refine memory_of_modify _ (pageHost.mappings_onMemory ..) (fun k => ?_) ⟨0⟩
        simp [setWord]
  have h₂ := h₁.step (@Service.Step.call _ .acquireRead (by intro slot hs; cases hs))
  refine ⟨_, h₂, by decide +kernel, ?given, accesses_contained hf (Nat.le_refl _) h₂ ?given⟩
  intro slot hslot
  cases hslot
  decide +kernel

end Ring

end PacketLink
