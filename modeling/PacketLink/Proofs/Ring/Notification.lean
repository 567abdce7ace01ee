import PacketLink.Proofs.Ring.Transmission

/-!
# Telling the kernel about frames

Submitting a frame ends in asking the kernel to send. If asking succeeds the kernel takes all frames
that wait, and if it fails the frame waits until the kernel is asked again.

* `Host.isTold`: whether the last time that the kernel was asked to send from a socket succeeded.
* `Transmission.Attached`: a ring that the kernel knows as the one of its socket, with the kernel
  told exactly if no frame waits. Acquiring, submitting and completing keep it.
* `Moment` and `Onward`: what the kernel does by itself. It completes frames that it has taken, and
  tells so by an event when it leaves a slot free.
-/

namespace PacketLink.Host

/-! ## The last notice -/

/-- How asking the kernel to send from a socket went, if the event is that it was asked. -/
def Event.notice? (s : SocketId) : Event → Option (Outcome Unit)
  | .flush s' outcome => if s' = s then some outcome else none
  | _ => none

/-- How it went the last time. -/
def notice? (h : Host) (s : SocketId) : Option (Outcome Unit) :=
  h.trace.findSome? (Event.notice? s)

/-- The kernel was never asked to send from a socket, or it succeeded the last time. -/
def isTold (h : Host) (s : SocketId) : Bool :=
  match h.notice? s with
  | some (.error _) => false
  | some (.ok ()) | none => true

/-- A host with what is known of the event of a socket. -/
structure Moment where
  host : Host
  /-- The event waits to be collected. -/
  pending : Prop

theorem activeMapping?_congr {h h' : Host} (hr : h'.rings = h.rings) (s : SocketId)
    (d : RingDirection) : h'.activeMapping? s d = h.activeMapping? s d := by
  have hm : h'.mappings = h.mappings := congrArg Rings.mappings hr
  simp only [activeMapping?, hm]

theorem isTold_congr {h h' : Host} {s : SocketId} (hn : h'.notice? s = h.notice? s) :
    h'.isTold s = h.isTold s := by
  simp only [isTold, hn]

/-- Frames that the kernel takes are no notices. -/
theorem transmitFrom_keeps_notice? (s s' : SocketId) (id : MappingId) (n : Nat) :
    Keeps (·.notice? s) (transmitFrom s' id n) := by
  intro h
  refine transmitFrom_induction (P := fun h' => h'.notice? s = h.notice? s) s' id ?_ n h rfl
  intro h' k hp _ _
  exact hp

/-- Asking is on record with its outcome. If it fails nothing else happens, and otherwise the
kernel takes frames from the mapping in use of the socket. -/
theorem flush_run {s : SocketId} {id : MappingId} {h : Host}
    (hid : h.activeMapping? s .send = some id) :
    (∃ e, ((flush s).run h).2.notice? s = some (.error e) ∧
        ((flush s).run h).2.rings = h.rings) ∨
      ∃ h₁, h₁.rings = h.rings ∧ h₁.notice? s = some (.ok ()) ∧
        ((flush s).run h).2 = ((transmitFrom s id (h₁.memoryOf id).count).run h₁).2 := by
  have hkeep : Keeps rings (plainCall .send (.flush s)) := plainCall_keeps fun _ => rfl
  have hrings := hkeep h
  have hnotice : ((plainCall .send (.flush s)).run h).2.notice? s =
      some ((plainCall .send (.flush s)).run h).1 := by
    rw [plainCall, attempt, run_bind]
    by_cases hcode : 0 < ((enter .send).run h).1
    · simp only [hcode, if_true, run_bind, run_pure, record, run_modify, notice?,
        List.findSome?_cons, Event.notice?]
    · simp only [hcode, if_false, if_true, run_bind, run_pure, record, run_modify, notice?,
        List.findSome?_cons, Event.notice?]
  rw [flush, run_bind]
  generalize (plainCall .send (.flush s)).run h = called at hrings hnotice ⊢
  obtain ⟨outcome, h₁⟩ := called
  cases outcome with
  | error e => exact .inl ⟨e, hnotice, hrings⟩
  | ok =>
    refine .inr ⟨h₁, hrings, hnotice, ?_⟩
    have hid₁ : h₁.activeMapping? s .send = some id :=
      (activeMapping?_congr hrings s .send).trans hid
    simp only [run_bind, run_get, hid₁, run_pure]

end PacketLink.Host

namespace PacketLink.Ring

open Host SlotMemory

/-! ## The kernel by itself -/

/-- The kernel, with nobody asking it, is done with frames that it has taken from a ring. If it
leaves a slot free the socket of the ring has an event. No event is lost. -/
inductive Onward (owner : SocketId) (id : MappingId) : Moment → Moment → Prop where
  /-- What no ring can tell happens. -/
  | rest {m m' : Moment} (hr : m'.host.rings = m.host.rings)
    (hn : m'.host.notice? owner = m.host.notice? owner) (he : m.pending → m'.pending) :
    Onward owner id m m'
  | complete {h : Host} {e e' : Prop} {i word : Nat} (hi : i < (h.memoryOf id).count)
    (hs : (h.memoryOf id).status i = sending) (hw : word = free ∨ word = wrongFormat)
    (he : e → e') (hf : word = free → e') :
    Onward owner id ⟨h, e⟩ ⟨h.onMemory id fun m => m.setStatus i word, e'⟩
  | trans {m₁ m₂ m₃ : Moment} (h : Onward owner id m₁ m₂) (h' : Onward owner id m₂ m₃) :
    Onward owner id m₁ m₃

theorem Onward.refl {owner : SocketId} {id : MappingId} (m : Moment) : Onward owner id m m :=
  .rest rfl rfl fun he => he

theorem Onward.pending {owner : SocketId} {id : MappingId} {m m' : Moment}
    (h : Onward owner id m m') : m.pending → m'.pending := by
  induction h with
  | rest _ _ he => exact he
  | complete _ _ _ he _ => exact he
  | trans _ _ ih ih' => exact fun hp => ih' (ih hp)

namespace Transmission

variable {s s' : Transmission}

/-! ## Frames that wait -/

/-- A slot was never used, or belongs to a frame of the last lap. -/
theorem Inv.unused_or_slotted (hi : s.Inv) {i : Nat} (h : i < s.ring.capacity) :
    s.memory.status i = free ∨
      ∃ n, n < s.accepted.length ∧ n % s.ring.capacity = i ∧ s.Slotted n := by
  by_cases hu : s.accepted.length ≤ i
  · exact .inl (hi.unused i hu h)
  · obtain ⟨n, hge, hlt, hn⟩ := exists_mod_eq (s.accepted.length - s.ring.capacity) h
    have hold : n < s.accepted.length := by
      refine Decidable.byContradiction fun hnew => hu ?_
      rw [← hn, Nat.mod_eq_of_lt (by omega)]
      omega
    exact .inr ⟨n, hold, hn, hi.slotted n hold (by omega)⟩

/-- The words that a slot can have. -/
theorem Inv.status_cases (hi : s.Inv) {i : Nat} (h : i < s.ring.capacity) :
    s.memory.status i = free ∨ s.memory.status i = sendRequest ∨ s.memory.status i = sending ∨
      s.memory.status i = wrongFormat := by
  rcases hi.unused_or_slotted h with hf | ⟨n, -, rfl, hn⟩
  · exact .inl hf
  · by_cases ht : n < s.taken
    · by_cases hf : s.IsFinished n
      · exact (hn.finished hf).imp_right fun hw => .inr (.inr hw)
      · exact .inr (.inr (.inl (hn.leaves ht hf)))
    · exact .inr (.inl (hn.waits (by omega)).1)

/-- A slot of which the frame is being sent belongs to a frame that the kernel is not done with. -/
theorem Inv.exists_of_sending (hi : s.Inv) {i : Nat} (h : i < s.ring.capacity)
    (hs : s.memory.status i = sending) :
    ∃ n, n < s.taken ∧ ¬ s.IsFinished n ∧ n % s.ring.capacity = i := by
  rcases hi.unused_or_slotted h with hf | ⟨n, -, rfl, hn⟩
  · rw [hf] at hs
    cases hs
  · refine ⟨n, Decidable.byContradiction fun ht => ?_, fun hf => ?_, rfl⟩
    · rw [(hn.waits (by omega)).1] at hs
      cases hs
    · rcases hn.finished hf with he | he <;> rw [he] at hs <;> cases hs

/-- No frame waits exactly if the kernel has taken all that were accepted. -/
theorem Inv.none_waits_iff (hi : s.Inv) :
    (∀ i, i < s.ring.capacity → s.memory.status i ≠ sendRequest) ↔
      s.taken = s.accepted.length := by
  constructor
  · intro hall
    refine Nat.le_antisymm hi.taken_le (Nat.le_of_not_lt fun hlt => ?_)
    obtain ⟨-, hnext⟩ := hi.slotted_of_not hlt fun hf => Nat.lt_irrefl _ hf.1
    exact hall _ (Nat.mod_lt _ hi.capacity_pos) (hnext.waits (Nat.le_refl _)).1
  · intro he i h hs
    rcases hi.unused_or_slotted h with hf | ⟨n, hlt, rfl, hn⟩
    · rw [hf] at hs
      cases hs
    · by_cases hf : s.IsFinished n
      · rcases hn.finished hf with hw | hw <;> rw [hw] at hs <;> cases hs
      · rw [hn.leaves (he ▸ hlt) hf] at hs
        cases hs

/-! ## All that wait are taken -/

/-- Of the words that the kernel leaves behind none asks it to send. -/
theorem IsOrderly.not_isSendRequest {script : Script} (ho : IsOrderly script) (n : Nat) :
    ¬ isSendRequest (script.left n) = true := by
  rcases ho n with h | h | h <;> rw [h] <;> decide

/-- Given enough steps the kernel takes all frames that wait. -/
theorem Inv.transmitFrom (hi : s.Inv) (socket : SocketId) {steps : Nat}
    (hs : s.accepted.length ≤ s.taken + steps) {h' : Host}
    (hr : ((Host.transmitFrom socket s.ring.mapping steps).run s.host).2 = h') :
    Inv { s with host := h' } ∧
      ({ s with host := h' } : Transmission).taken = s.accepted.length ∧
      ∀ s' d, h'.activeMapping? s' d = s.host.activeMapping? s' d := by
  induction steps generalizing s with
  | zero =>
    subst hr
    exact ⟨hi, Nat.le_antisymm hi.taken_le hs, fun _ _ => rfl⟩
  | succ steps ih =>
    by_cases hlt : s.taken < s.accepted.length
    · obtain ⟨k, hk, -, hn⟩ := hi.mapping
      obtain ⟨-, hnext⟩ := hi.slotted_of_not hlt fun hf => Nat.lt_irrefl _ hf.1
      have hreq : isSendRequest (k.memory.status k.nextSend) = true := by
        have hm : s.memory = k.memory := memoryOf_eq hk
        rw [hn, ← hm]
        exact hnext.isSendRequest_iff.mpr (Nat.le_refl _)
      have hleft : ¬ isSendRequest (s.host.script.left s.host.ringFrames) = true := by
        rw [hi.script]
        exact IsOrderly.not_isSendRequest hi.orderly _
      rw [transmitFrom_succ socket _ _ _ hk hreq, if_neg hleft] at hr
      have ht := hi.taken_afterTake socket k
      obtain ⟨hinv, htaken, hactive⟩ :=
        ih (s := s.afterTake socket k) (hi.take hk hreq) (by rw [ht, afterTake_accepted]; omega) hr
      refine ⟨hinv, htaken, fun s' d => (hactive s' d).trans ?_⟩
      exact activeMapping?_takeNext socket s.ring.mapping k s.host s' d
    · rw [transmitFrom_of_not socket _ _ _ fun k hk hreq => hlt (hi.next_waits hk hreq)] at hr
      subst hr
      exact ⟨hi, Nat.le_antisymm hi.taken_le (Nat.le_of_not_lt hlt), fun _ _ => rfl⟩

/-! ## A ring that the kernel knows -/

/-- A ring for sending that the kernel knows as the one of its socket. The kernel was told of all
frames exactly if none of them waits. -/
structure Attached (s : Transmission) (socket : PacketSocket) : Prop where
  inv : s.Inv
  owner : s.ring.socket = some socket
  active : s.host.activeMapping? socket.id .send = some s.ring.mapping
  told_iff : s.host.isTold socket.id = true ↔ s.taken = s.accepted.length

variable {socket : PacketSocket}

theorem Attached.start {r : Ring} {h : Host} (hf : r.Fresh h) (hd : r.direction = .send)
    (hs : sendOffset ≤ r.slotSize) (ho : IsOrderly h.script) (hsock : r.socket = some socket)
    (ha : h.activeMapping? socket.id .send = some r.mapping)
    (hn : h.notice? socket.id = none) :
    Attached { origin := h, host := h, ring := r } socket := by
  have hu : r.InUse h := by
    intro socket' hsocket' id hid
    cases hsock.symm.trans hsocket'
    exact Option.some.inj (hid.symm.trans ha)
  refine ⟨Inv.start hf hd hs ho hu, hsock, ha, iff_of_true ?_ (Nat.sub_self _)⟩
  simp only [isTold, hn]

theorem taken_congr {h h' : Host} (hr : h'.rings = h.rings) :
    ({ s with host := h' } : Transmission).taken = ({ s with host := h } : Transmission).taken :=
  congrArg (·.ringFrames - s.origin.ringFrames) hr

/-- Nothing on the host counts but what a ring can tell and how the kernel was asked to send. -/
theorem Attached.congr (ha : s.Attached socket) {h : Host} (hr : h.rings = s.host.rings)
    (hn : h.notice? socket.id = s.host.notice? socket.id) :
    Attached { s with host := h } socket := by
  refine ⟨ha.inv.congr hr, ha.owner, (activeMapping?_congr hr _ _).trans ha.active, ?_⟩
  rw [taken_congr hr, isTold_congr hn]
  exact ha.told_iff

/-- The kernel is done with the frame in a slot. -/
theorem Attached.complete (ha : s.Attached socket) {i word : Nat} (h : i < s.ring.capacity)
    (hs : s.memory.status i = sending) (hw : word = free ∨ word = wrongFormat) :
    ∃ s', Attached s' socket ∧ s'.ring = s.ring ∧
      s'.host = s.host.onMemory s.ring.mapping fun m => m.setStatus i word := by
  obtain ⟨n, ht, hf, rfl⟩ := ha.inv.exists_of_sending h hs
  refine ⟨s.afterComplete n word, ⟨ha.inv.complete ht hf hw, ha.owner, ?_, ha.told_iff⟩, rfl, rfl⟩
  exact (activeMapping?_onMemory s.ring.mapping (·.setStatus (n % s.ring.capacity) word) s.host
    socket.id .send).trans ha.active

theorem Attached.acquire (ha : s.Attached socket) {slot? : Option Slot} {h : Host}
    (hr : s.ring.acquireWrite.run s.host = (.ok slot?, h)) :
    Attached { s with host := h, held := slot? } socket := by
  have hi := ha.inv.acquire hr
  rw [acquireWrite_run ha.inv.direction] at hr
  obtain ⟨-, rfl⟩ := Prod.mk.inj hr
  exact ⟨hi, ha.owner, ha.active, ha.told_iff⟩

/-- Asking the kernel to send while a frame waits: it takes all that wait, or none. -/
theorem Attached.notified (hi : s.Inv) (hs : s.ring.socket = some socket)
    (ha : s.host.activeMapping? socket.id .send = some s.ring.mapping)
    (hlt : s.taken < s.accepted.length) :
    Attached { s with host := s.ring.notified s.host } socket := by
  have hn : s.ring.notified s.host = ((flush socket.id).run s.host).2 := by rw [Ring.notified, hs]
  have hinv := hi.notified
  rw [hn] at hinv ⊢
  rcases flush_run ha with ⟨e, hnotice, hrings⟩ | ⟨h₁, hrings, hnotice, hrun⟩
  · refine ⟨hinv, hs, (activeMapping?_congr hrings _ _).trans ha, iff_of_false ?_ ?_⟩
    · simp only [isTold, hnotice, Bool.false_eq_true, not_false_eq_true]
    · rw [taken_congr hrings]
      exact Nat.ne_of_lt hlt
  · have hi₁ : Inv { s with host := h₁ } := hi.congr hrings
    obtain ⟨k, hk, hcount, -⟩ := hi₁.mapping
    -- The kernel takes a whole lap of frames if there are as many.
    have hsteps : s.accepted.length ≤
        ({ s with host := h₁ } : Transmission).taken + (h₁.memoryOf s.ring.mapping).count := by
      obtain ⟨hlap, -⟩ := hi.slotted_of_not hlt fun hf => Nat.lt_irrefl _ hf.1
      rw [memoryOf_eq hk, hcount, taken_congr hrings]
      exact hlap
    obtain ⟨-, htaken, hactive⟩ := hi₁.transmitFrom socket.id hsteps hrun.symm
    refine ⟨hinv, hs, ?_, iff_of_true ?_ htaken⟩
    · exact (hactive _ _).trans ((activeMapping?_congr hrings _ _).trans ha)
    · have hkeep := transmitFrom_keeps_notice? socket.id socket.id s.ring.mapping
        (h₁.memoryOf s.ring.mapping).count h₁
      rw [← hrun] at hkeep
      simp only [isTold, show _ = h₁.notice? socket.id from hkeep, hnotice]

/-- A submission of a claimed slot fails for its frame only. -/
theorem Attached.submit (ha : s.Attached socket) {slot : Slot} {frame : Bytes}
    {answer : Except LinkError Unit} {r : Ring} {h : Host} (hs : s.held = some slot)
    (hr : (s.ring.submitWrite slot frame).run s.host = ((answer, r), h)) :
    (∃ s', Attached s' socket ∧ s'.ring = r ∧ s'.host = h) ∧ r.mapping = s.ring.mapping ∧
      ∀ e, answer = .error e → e.isResource = false := by
  obtain ⟨hx, hst, hb, hv⟩ := ha.inv.held slot hs
  by_cases hl : frame.length ≤ slot.frameBytes
  · obtain ⟨answer', hq, hrun⟩ :=
      submitWrite_run ((submitRefusal?_eq_none ha.inv.direction hx hst).mpr hl) s.host
    rw [hrun, hx] at hr
    obtain ⟨hans, rfl⟩ := Prod.mk.inj hr
    obtain ⟨rfl, rfl⟩ := Prod.mk.inj hans
    have hfill := ha.inv.fill hv (hb ▸ hl)
    have hlen : (s.afterFill s.ring.cursor frame).accepted.length = s.accepted.length + 1 :=
      List.length_append
    refine ⟨⟨_, Attached.notified hfill ha.owner ?_ ?_, rfl, rfl⟩, rfl, fun e he => ?_⟩
    · exact (activeMapping?_onMemory s.ring.mapping (Ring.fill · s.ring.cursor frame) s.host
        socket.id .send).trans ha.active
    · rw [hlen]
      exact Nat.lt_succ_of_le ha.inv.taken_le
    · subst he
      match e, hq with
      | .transport _ _, _ => rfl
  · have he : s.ring.submitRefusal? slot frame =
        some (.frame (.payloadTooLarge .raw slot.frameBytes frame.length)) := by
      simp only [submitRefusal?, ha.inv.direction, hx, hst, ne_eq, not_true_eq_false, or_self,
        if_false, reduceCtorEq, if_pos (Nat.lt_of_not_le hl)]
    rw [submitWrite_run_refused he] at hr
    obtain ⟨hans, rfl⟩ := Prod.mk.inj hr
    obtain ⟨rfl, rfl⟩ := Prod.mk.inj hans
    exact ⟨⟨s, ha, rfl, rfl⟩, rfl, fun e he => by cases he; rfl⟩

/-! ## The kernel goes on -/

/-- The ring stays attached, and where it has become free there is an event. -/
theorem Attached.onward {id : MappingId} {m m' : Moment} (ha : s.Attached socket)
    (h : Onward socket.id id m m') (hid : s.ring.mapping = id) (hm : s.host = m.host) :
    ∃ s', Attached s' socket ∧ s'.ring = s.ring ∧ s'.host = m'.host ∧
      ∀ i, i < s.ring.capacity → s'.memory.status i = free →
        s.memory.status i = free ∨ m'.pending := by
  induction h generalizing s with
  | @rest m m' hr hn he =>
    rw [← hm] at hr hn
    refine ⟨_, ha.congr hr hn, rfl, rfl, fun i _ hf => .inl ?_⟩
    rw [← hf]
    exact congrArg (·.status i) (memoryOf_congr (congrArg Rings.mappings hr) s.ring.mapping).symm
  | @complete h e e' i word hi hs hw he hf =>
    subst hm hid
    obtain ⟨k, hk, hcount, -⟩ := ha.inv.mapping
    have hlt : i < s.ring.capacity := by rwa [memoryOf_eq hk, hcount] at hi
    obtain ⟨s', ha', hring, hhost⟩ := ha.complete hlt hs hw
    refine ⟨s', ha', hring, hhost, fun j _ hfree => ?_⟩
    have hmem : s'.memory = s.memory.setStatus i word := by
      rw [memory, Ring.memory, hring, hhost]
      exact memoryOf_onMemory hk _
    rw [hmem] at hfree
    by_cases hij : i = j
    · subst hij
      have hword := ha.inv.status_stored i (hw.imp_right .inr)
      rw [Nat.mod_eq_of_lt hlt] at hword
      exact .inr (hf (hword.symm.trans hfree))
    · rw [status_setStatus_of_ne _ hij] at hfree
      exact .inl hfree
  | trans h h' ih ih' =>
    obtain ⟨s₁, ha₁, hring₁, hhost₁, hfree₁⟩ := ih ha hid hm
    obtain ⟨s₂, ha₂, hring₂, hhost₂, hfree₂⟩ := ih' ha₁ (hring₁ ▸ hid) hhost₁
    refine ⟨s₂, ha₂, hring₂.trans hring₁, hhost₂, fun i hi hf => ?_⟩
    rcases hfree₂ i (hring₁ ▸ hi) hf with hf₁ | hp
    · exact (hfree₁ i hi hf₁).imp_right h'.pending
    · exact .inr hp

end Transmission

end PacketLink.Ring
