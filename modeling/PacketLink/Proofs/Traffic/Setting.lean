import PacketLink.Proofs.Ring.Notification
import PacketLink.Session.Basic

/-!
# Where a transmitter works

* `Transmitter.onReady_attached`: a turn of a transmitter on an attached ring leaves it attached,
  and is idle only if the slot at the cursor cannot be claimed.
* `Setting`: what is known of the surroundings of the event loop: the host and the event of a
  socket.
* `Hosted`: surroundings in which the kernel goes on at any time, and nothing else touches the ring.
  A probe may say that there is room where there is none, but not the other way.
* `surroundings_hosted`: sessions are such surroundings.
-/

namespace PacketLink

open Host PacketLink.Ring SlotMemory

/-! ## One turn of a transmitter -/

/-- What a transmitter on a ring can answer. It is idle only if the slot at the cursor cannot be
claimed. -/
def Transmitter.MayAnswer (s : Transmission) : Except LinkError Dispatch → Prop
  | .ok (.pause _) => True
  | .ok .idle => ¬ IsClaimable s.memory s.ring.cursor
  | .ok .handled => False
  | .error e => e.isResource = false

variable {s : Transmission} {socket : PacketSocket}

/-- Where a slot can be claimed the bytes are submitted to it. A report of the frame that was
refused there comes first, and the ring can tell nothing of it. -/
theorem Transmitter.sendToRing_run {r : Ring} (hd : r.direction = .send) {h : Host} {slot : Slot}
    (hw : r.writeSlot? (r.memory h) = some slot) (bytes : Bytes) :
    ∃ h₁ : Host, h₁.rings = h.rings ∧ (∀ owner, h₁.notice? owner = h.notice? owner) ∧
      ∀ {sent r' h'}, (r.submitWrite slot bytes).run h₁ = ((sent, r'), h') →
        (sendToRing r bytes).run h = ((sent.map fun _ => true, r'), h') := by
  rw [sendToRing, run_bind, acquireWrite_run hd]
  simp only [hw]
  split
  · refine ⟨((report (rejectedReport slot)).run h).2, rfl, fun _ => rfl, fun {sent r' h'} hs => ?_⟩
    rw [run_bind, run_bind, hs]
    cases sent <;> rfl
  · refine ⟨h, rfl, fun _ => rfl, fun {sent r' h'} hs => ?_⟩
    rw [run_bind, hs]
    cases sent <;> rfl

theorem Transmitter.sendToRing_run_none {r : Ring} (hd : r.direction = .send) {h : Host}
    (hw : r.writeSlot? (r.memory h) = none) (bytes : Bytes) :
    (sendToRing r bytes).run h = ((.ok false, r), h) := by
  rw [sendToRing, run_bind, acquireWrite_run hd]
  simp only [hw, run_pure]

theorem Transmitter.sendToRing_attached (ha : s.Attached socket) {bytes : Bytes}
    {answer : Except LinkError Bool} {r : Ring} {h : Host}
    (hr : (sendToRing s.ring bytes).run s.host = ((answer, r), h)) :
    ∃ s' : Transmission, s'.Attached socket ∧ s'.ring = r ∧ s'.host = h ∧
      r.mapping = s.ring.mapping ∧
      (answer = .ok false → ¬ IsClaimable s'.memory s'.ring.cursor) ∧
      ∀ e, answer = .error e → e.isResource = false := by
  have hd := ha.inv.direction
  cases hw : s.ring.writeSlot? (s.ring.memory s.host) with
  | none =>
    rw [sendToRing_run_none hd hw] at hr
    obtain ⟨hans, rfl⟩ := Prod.mk.inj hr
    obtain ⟨rfl, rfl⟩ := Prod.mk.inj hans
    exact ⟨s, ha, rfl, rfl, rfl, fun _ => writeSlot?_eq_none_iff.mp hw, nofun⟩
  | some slot =>
    obtain ⟨h₁, hrings, hnotice, hsent⟩ := sendToRing_run hd hw bytes
    have hclaim : s.ring.acquireWrite.run h₁ = (.ok (some slot), h₁) := by
      rw [acquireWrite_run hd, ← hw]
      exact congrArg (fun m => (Except.ok (s.ring.writeSlot? m), h₁))
        (memoryOf_congr (congrArg Rings.mappings hrings) s.ring.mapping)
    have hheld := (ha.congr hrings (hnotice socket.id)).acquire hclaim
    obtain ⟨⟨⟨sent, r'⟩, h'⟩, hsubmit⟩ : ∃ t, (s.ring.submitWrite slot bytes).run h₁ = t := ⟨_, rfl⟩
    obtain ⟨⟨s', ha', rfl, rfl⟩, hmap, hfail⟩ := hheld.submit rfl hsubmit
    rw [hsent hsubmit] at hr
    obtain ⟨hans, rfl⟩ := Prod.mk.inj hr
    obtain ⟨rfl, rfl⟩ := Prod.mk.inj hans
    refine ⟨s', ha', rfl, rfl, hmap, fun hfalse => ?_, fun e he => ?_⟩
    · cases sent <;> cases hfalse
    · cases sent with
      | error e' =>
        cases he
        exact hfail e rfl
      | ok => cases he

/-- A turn leaves the ring attached, and its answer is one that a transmitter can give. -/
theorem Transmitter.onReady_attached (ha : s.Attached socket) {x x' : Transmitter}
    (hx : x.channel = .ring s.ring) {answer : Except LinkError Dispatch} {h : Host}
    (hr : x.onReady.run s.host = ((answer, x'), h)) :
    ∃ s' : Transmission, s'.Attached socket ∧ x'.channel = .ring s'.ring ∧ s'.host = h ∧
      s'.ring.mapping = s.ring.mapping ∧ MayAnswer s' answer := by
  unfold onReady at hr
  cases hf : x.plan.frame with
  | error e =>
    simp only [hf, run_pure] at hr
    obtain ⟨hans, rfl⟩ := Prod.mk.inj hr
    obtain ⟨rfl, rfl⟩ := Prod.mk.inj hans
    exact ⟨s, ha, hx, rfl, rfl, rfl⟩
  | ok f =>
    obtain ⟨⟨⟨sent, r⟩, h'⟩, hsend⟩ : ∃ t, (sendToRing s.ring f.encode).run s.host = t := ⟨_, rfl⟩
    obtain ⟨s', ha', rfl, rfl, hmap, hidle, hfail⟩ := sendToRing_attached ha hsend
    simp only [hf, send, hx, run_bind, hsend, run_pure] at hr
    cases sent with
    | error e =>
      obtain ⟨hans, rfl⟩ := Prod.mk.inj hr
      obtain ⟨rfl, rfl⟩ := Prod.mk.inj hans
      exact ⟨s', ha', rfl, rfl, hmap, hfail e rfl⟩
    | ok taken =>
      cases taken with
      | false =>
        obtain ⟨hans, rfl⟩ := Prod.mk.inj hr
        obtain ⟨rfl, rfl⟩ := Prod.mk.inj hans
        exact ⟨s', ha', rfl, rfl, hmap, hidle rfl⟩
      | true =>
        obtain ⟨hans, rfl⟩ := Prod.mk.inj hr
        obtain ⟨rfl, rfl⟩ := Prod.mk.inj hans
        exact ⟨s', ha', rfl, rfl, hmap, trivial⟩

end PacketLink

namespace PacketLink.Traffic

open Host PacketLink.Ring SlotMemory Reactor

variable {σ α : Type}

/-! ## What a transmitter may rely on -/

/-- What is known of the surroundings of the event loop: the host, and the event of one socket. -/
structure Setting (σ : Type) where
  host : σ → Host
  pending : σ → Prop

/-- The host with the event. -/
def Setting.moment (e : Setting σ) (s : σ) : Moment := ⟨e.host s, e.pending s⟩

/-- Whatever the state, only the kernel does something meanwhile. -/
def Setting.Onwards (e : Setting σ) (owner : SocketId) (id : MappingId) (act : StateM σ α) : Prop :=
  ∀ s, Onward owner id (e.moment s) (e.moment (act.run s).2)

/-- Surroundings of the event loop in which the kernel is what it is here. It may go on at any time,
but a probe or an event that shows no room is right at some moment. -/
structure Hosted (p : Platform σ Worker) (e : Setting σ) (owner : SocketId) (id : MappingId) :
    Prop where
  report (entry : Log.Entry) : e.Onwards owner id (p.report entry)
  interruption : e.Onwards owner id p.interruption
  sleep (resume : Option Nat) : e.Onwards owner id (p.sleep resume)
  probe (s : σ) : ∃ m, Onward owner id (e.moment s) m ∧
    Onward owner id m (e.moment ((p.probe owner.number .writable).run s).2) ∧
      (((p.probe owner.number .writable).run s).1 = .ok false → m.host.isWritable owner = false)
  /-- The event is taken, unless collecting fails. It counts if there is room. -/
  collect (s : σ) : ∃ m, Onward owner id (e.moment s) m ∧
    match (p.collect owner.number .writable).run s with
    | (.ok found, s') => Onward owner id ⟨m.host, False⟩ (e.moment s') ∧
      (found = false → m.pending → m.host.isWritable owner = false)
    | (.error _, s') => Onward owner id m (e.moment s')
  onReady (b : Worker) (s : σ) : ∃ m, Onward owner id (e.moment s) m ∧
    ((p.onReady b).run s).1 = (b.onReady.run m.host).1 ∧
      Onward owner id ⟨(b.onReady.run m.host).2, m.pending⟩ (e.moment ((p.onReady b).run s).2)
  afterError (b : Worker) : p.afterError b = b.afterError

/-- What is known of the world of a session. -/
def worldSetting : Setting Session.World := ⟨fun w => w.host, fun w => w.event = true⟩

theorem onHost_onwards {owner : SocketId} {id : MappingId} {act : Sys α}
    (hr : Keeps rings act) (hn : Keeps (·.notice? owner) act) :
    worldSetting.Onwards owner id (Session.onHost act) :=
  fun w => .rest (hr w.host) (hn w.host) fun he => he

theorem interruption_onwards (owner : SocketId) (id : MappingId) :
    worldSetting.Onwards owner id Session.interruption := by
  intro w
  unfold Session.interruption
  simp only [run_bind, run_get]
  cases w.schedule with
  | stopped => exact .refl _
  | stopAt t =>
    dsimp only
    split
    · exact .rest rfl rfl fun he => he
    · exact .refl _
  | abandonAt t => exact .refl _
  | signals =>
    dsimp only
    cases w.host.signal with
    | none => exact .refl _
    | some signal => exact .rest rfl rfl fun he => he

/-- In a session the kernel does nothing by itself. -/
theorem surroundings_hosted (owner : SocketId) (id : MappingId) :
    Hosted Session.surroundings worldSetting owner id where
  report entry := onHost_onwards (report_keeps entry) fun _ => rfl
  interruption := interruption_onwards owner id
  sleep resume w := .rest rfl rfl fun he => he
  probe w := by
    -- The descriptor is looked at after the call was counted.
    refine ⟨worldSetting.moment ((Session.surroundings.probe owner.number .writable).run w).2,
      .rest ?_ ?_ fun he => he, .refl _, fun hfalse => probe_false (Prod.ext hfalse rfl)⟩
    · exact (congrArg rings (probe_run_snd _ w.host)).trans (enter_keeps .poll w.host)
    · exact (congrArg (·.notice? owner) (probe_run_snd _ w.host)).trans rfl
  collect w := by
    refine ⟨_, .refl _, .rest rfl rfl False.elim, fun hfalse he => ?_⟩
    have he : w.event = true := he
    rwa [he, Bool.true_and] at hfalse
  onReady b w := ⟨_, .refl _, rfl, .refl _⟩
  afterError b := rfl

end PacketLink.Traffic
