import PacketLink.Proofs.Reactor.Wakeup
import PacketLink.Proofs.Traffic.Setting

/-!
# When a transmitter sleeps

A transmitter on a ring sends a frame and pauses. At the end of the pause it goes on if the kernel
has room, and otherwise sleeps until the kernel tells that a slot has become free. The kernel tells
nothing about a slot of which it refused the frame, and does nothing for frames of which it was not
told.

* `Sound`: what holds of the watcher between two turns. If the slot at the cursor is free it is
  armed, pauses, or has an event. Looking, serving, waiting and collecting keep it (`turn_sound`).
* `Reachable`: the watcher after any number of turns, in any number of runs, while the kernel goes
  on.
* `asleep_slumbers`: while the watcher sleeps the slot at the cursor is not free, and there is
  nothing to do exactly if its frame was not refused and the kernel was told of the last frame.
* `asleep_refused_solo`: it sleeps although a slot can be claimed, once all frames of a lap were
  refused.
-/

namespace PacketLink.Traffic

open Host PacketLink.Ring SlotMemory Reactor

/-! ## The watcher of a transmitter -/

variable {σ : Type} {p : Platform σ Worker} {e : Setting σ} {owner : SocketId} {id : MappingId}
  {w w' : Watcher Worker} {m m' : Moment} {s s' : σ} {T : Transmission}

/-- The watcher has a transmitter on an attached ring. -/
structure Fits (owner : SocketId) (id : MappingId) (w : Watcher Worker) (m : Moment)
    (T : Transmission) : Prop where
  attached : T.Attached ⟨owner⟩
  host : T.host = m.host
  mapping : T.ring.mapping = id
  worker : ∃ x, w.worker = .transmitter x ∧ x.channel = .ring T.ring
  descriptor : w.descriptor = owner.number
  readiness : w.readiness = .writable

/-- What holds of the watcher between two turns: if the slot at the cursor is free it is armed,
pauses, or has an event. -/
def Sound (owner : SocketId) (id : MappingId) (w : Watcher Worker) (m : Moment) : Prop :=
  ∃ T, Fits owner id w m T ∧ (T.memory.status T.ring.cursor = free →
    w.armed = true ∨ w.resumeAt.isSome = true ∨ w.flagged = true ∨ m.pending)

theorem Fits.cursor_lt (h : Fits owner id w m T) : T.ring.cursor < T.ring.capacity := by
  rw [h.attached.inv.cursor]
  exact Nat.mod_lt _ h.attached.inv.capacity_pos

theorem Fits.onward (h : Fits owner id w m T) (ho : Onward owner id m m') :
    ∃ T', Fits owner id w m' T' ∧ T'.ring = T.ring ∧
      (T'.memory.status T'.ring.cursor = free →
        T.memory.status T.ring.cursor = free ∨ m'.pending) := by
  obtain ⟨T', ha, hring, hhost, hfree⟩ := h.attached.onward ho h.mapping h.host
  refine ⟨T', ⟨ha, hhost, hring ▸ h.mapping, hring ▸ h.worker, h.descriptor, h.readiness⟩,
    hring, ?_⟩
  rw [hring]
  exact hfree _ h.cursor_lt

theorem Sound.onward (h : Sound owner id w m) (ho : Onward owner id m m') :
    Sound owner id w m' := by
  obtain ⟨T, hf, halert⟩ := h
  obtain ⟨T', hf', -, hfree⟩ := hf.onward ho
  refine ⟨T', hf', fun hfree' => ?_⟩
  rcases hfree hfree' with hold | hp
  · rcases halert hold with ha | hr | hx | hp
    · exact .inl ha
    · exact .inr (.inl hr)
    · exact .inr (.inr (.inl hx))
    · exact .inr (.inr (.inr (ho.pending hp)))
  · exact .inr (.inr (.inr hp))

/-- A watcher that is sound as long as the slot at the cursor is not free stays so. -/
theorem Fits.sound_of_not_free (h : Fits owner id w m T) (hn : T.memory.status T.ring.cursor ≠ free)
    (ho : Onward owner id m m') : Sound owner id w m' :=
  Sound.onward ⟨T, h, fun hf => absurd hf hn⟩ ho

theorem Fits.not_free (h : Fits owner id w m T) (hw : m.host.isWritable owner = false) :
    T.memory.status T.ring.cursor ≠ free := by
  obtain ⟨k, hk, hcount, -⟩ := h.attached.inv.mapping
  have hactive : T.host.activeMapping? owner .send = some T.ring.mapping := h.attached.active
  rw [← h.host, isWritable, hactive] at hw
  have hcursor := List.any_eq_false.mp hw T.ring.cursor
    (List.mem_range.mpr (by rw [memoryOf_eq hk, hcount]; exact h.cursor_lt))
  exact fun hf => hcursor (decide_eq_true hf)

/-! ## Looking, serving and waiting -/

theorem lookAwake_sound (h : Sound owner id w m) :
    ((lookAwake w).2 = none → Sound owner id (lookAwake w).1 m) ∧
      ((lookAwake w).2 = some (.ok ()) → ∃ T, Fits owner id (lookAwake w).1 m T) := by
  obtain ⟨T, hf, halert⟩ := h
  unfold lookAwake
  split
  · exact ⟨nofun, fun _ => ⟨T, hf⟩⟩
  · split
    · exact ⟨nofun, nofun⟩
    · split
      · exact ⟨nofun, fun _ => ⟨T, { hf with }⟩⟩
      · exact ⟨fun _ => ⟨T, hf, halert⟩, nofun⟩

theorem look_sound (hp : Hosted p e owner id) (h : Sound owner id w (e.moment s))
    {l : Looked Worker} (hl : (look p w).run s = (l, s')) :
    (l.2 = none → Sound owner id l.1 (e.moment s')) ∧
      (l.2 = some (.ok ()) → ∃ T, Fits owner id l.1 (e.moment s') T) := by
  unfold look at hl
  cases hr : w.resumeAt with
  | none =>
    simp only [hr, run_pure] at hl
    obtain ⟨rfl, rfl⟩ := Prod.mk.inj hl
    exact lookAwake_sound h
  | some t =>
    simp only [hr, run_bind, run_get] at hl
    by_cases ht : p.now s < t
    · simp only [ht, if_true, run_pure] at hl
      obtain ⟨rfl, rfl⟩ := Prod.mk.inj hl
      exact ⟨fun _ => h, nofun⟩
    · simp only [ht, if_false, run_bind] at hl
      obtain ⟨T₀, hf₀, -⟩ := h
      obtain ⟨m, ho, ho', hroom⟩ := hp.probe s
      rw [← hf₀.descriptor, ← hf₀.readiness] at ho' hroom
      generalize (p.probe w.descriptor w.readiness).run s = probed at hl ho' hroom
      obtain ⟨outcome, s₁⟩ := probed
      obtain ⟨T, hf, -⟩ := hf₀.onward ho
      cases outcome with
      | error cause =>
        obtain ⟨rfl, rfl⟩ := Prod.mk.inj hl
        exact ⟨nofun, nofun⟩
      | ok level =>
        obtain ⟨rfl, rfl⟩ := Prod.mk.inj hl
        refine lookAwake_sound ?_
        have hf' : Fits owner id { w with resumeAt := none, armed := level } m T := { hf with }
        cases level with
        | true => exact Sound.onward ⟨T, hf', fun _ => .inl rfl⟩ ho'
        | false => exact hf'.sound_of_not_free (hf'.not_free (hroom rfl)) ho'

/-- A pause keeps a watcher sound, whatever the ring is like. -/
theorem Fits.pause (h : Fits owner id w (e.moment s) T) (ms : Nat) {w' : Watcher Worker}
    (hrun : (schedule p w (.pause ms)).run s = (w', s')) : Sound owner id w' (e.moment s') := by
  obtain ⟨rfl, rfl⟩ := Prod.mk.inj hrun
  exact ⟨T, { h with }, fun _ => .inr (.inl rfl)⟩

theorem serve_sound (hp : Hosted p e owner id) {stats stats' : Stats} {x : Served Worker}
    (h : Fits owner id w (e.moment s) T)
    (hrun : (serve p stats (w, some (.ok ()))).run s = ((x, stats'), s')) :
    x.2 = none ∧ Sound owner id x.1 (e.moment s') := by
  obtain ⟨m, ho, hval, ho'⟩ := hp.onReady w.worker s
  obtain ⟨T₁, hf₁, -⟩ := h.onward ho
  obtain ⟨y, hy, hchannel⟩ := hf₁.worker
  obtain ⟨⟨⟨answer, y'⟩, h'⟩, hturn⟩ : ∃ t, y.onReady.run m.host = t := ⟨_, rfl⟩
  have hworker : w.worker.onReady.run m.host = ((answer, .transmitter y'), h') := by
    rw [hy, Worker.onReady, run_bind, hturn]
    rfl
  obtain ⟨T₂, ha₂, hchannel₂, hhost₂, hmap₂, hanswer⟩ :=
    Transmitter.onReady_attached hf₁.attached hchannel (hf₁.host ▸ hturn)
  have hf₂ : Fits owner id { w with worker := .transmitter y' } ⟨h', m.pending⟩ T₂ :=
    ⟨ha₂, hhost₂, hmap₂.trans hf₁.mapping, ⟨y', rfl, hchannel₂⟩, h.descriptor, h.readiness⟩
  rw [hworker] at hval ho'
  obtain ⟨⟨given, s₁⟩, hready⟩ : ∃ t, (p.onReady w.worker).run s = t := ⟨_, rfl⟩
  rw [hready] at hval ho'
  subst hval
  simp only [serve, run_bind, hready] at hrun
  cases answer with
  | ok dispatch =>
    cases dispatch with
    | handled => exact hanswer.elim
    | idle =>
      simp only [run_bind, run_pure] at hrun
      obtain ⟨hx, rfl⟩ := Prod.mk.inj hrun
      obtain ⟨rfl, -⟩ := Prod.mk.inj hx
      have hf : Fits owner id { w with worker := .transmitter y', armed := false }
        ⟨h', m.pending⟩ T₂ := { hf₂ with }
      exact ⟨rfl, hf.sound_of_not_free (fun hfree => hanswer (.inl hfree)) ho'⟩
    | pause ms =>
      simp only [run_bind, run_pure] at hrun
      obtain ⟨hx, rfl⟩ := Prod.mk.inj hrun
      obtain ⟨rfl, -⟩ := Prod.mk.inj hx
      obtain ⟨T₃, hf₃, -⟩ := hf₂.onward ho'
      exact ⟨rfl, hf₃.pause ms rfl⟩
  | error err =>
    have herr : err.isResource = false := hanswer
    simp only [herr, Bool.false_eq_true, if_false, run_bind, run_pure] at hrun
    obtain ⟨hx, rfl⟩ := Prod.mk.inj hrun
    obtain ⟨rfl, -⟩ := Prod.mk.inj hx
    obtain ⟨T₃, hf₃, -⟩ := hf₂.onward (ho'.trans (hp.report _ s₁))
    rw [hp.afterError]
    exact ⟨rfl, hf₃.pause y'.plan.delay rfl⟩

theorem collect_sound (hp : Hosted p e owner id) (h : Sound owner id w (e.moment s))
    {outcome : Except Errno Bool}
    (hrun : (p.collect w.descriptor w.readiness).run s = (outcome, s')) :
    Sound owner id (w.collected outcome) (e.moment s') := by
  obtain ⟨m, ho, hcollect⟩ := hp.collect s
  obtain ⟨T, hf, halert⟩ := h.onward ho
  rw [← hf.descriptor, ← hf.readiness, hrun] at hcollect
  cases outcome with
  | error cause => exact Sound.onward ⟨T, { hf with }, halert⟩ hcollect
  | ok found =>
    obtain ⟨ho', hroom⟩ := hcollect
    refine Sound.onward (m := ⟨m.host, False⟩) ⟨T, { hf with }, fun hfree => ?_⟩ ho'
    rcases halert hfree with ha | hr | hx | hpending
    · exact .inl ha
    · exact .inr (.inl hr)
    · exact .inr (.inr (.inl (by simp [Watcher.collected, hx])))
    · cases found with
      | true => exact .inr (.inr (.inl (Bool.or_true _)))
      | false => exact absurd hfree (hf.not_free (hroom rfl hpending))

/-! ## Turns -/

/-- Serving the watcher removes it, or keeps it sound. -/
theorem iterate_sound (hp : Hosted p e owner id) {r : Run Worker} {l : Looked Worker}
    (h : l.2 = some (.ok ()) → ∃ T, Fits owner id l.1 (e.moment s) T) (hl : l.2 ≠ none) :
    ((r.iterate p [l]).run s).1.watchers = [] ∨ ∃ w',
      ((r.iterate p [l]).run s).1.watchers = [w'] ∧
        Sound owner id w' (e.moment ((r.iterate p [l]).run s).2) := by
  match l, h, hl with
  | (w, some (.error cause)), _, _ => exact .inl rfl
  | (w, some (.ok ())), h, _ =>
    obtain ⟨T, hf⟩ := h rfl
    obtain ⟨⟨⟨x, stats'⟩, s'⟩, hserve⟩ : ∃ t, (serve p
      { r.stats with iterations := r.stats.iterations + 1 } (w, some (.ok ()))).run s = t :=
        ⟨_, rfl⟩
    obtain ⟨hnone, hsound⟩ := serve_sound hp hf hserve
    obtain ⟨w₁, failure⟩ := x
    cases hnone
    rw [Run.iterate_lone hserve]
    exact .inr ⟨w₁, rfl, hsound⟩

theorem wait_sound (hp : Hosted p e owner id) {r : Run Worker} (hr : r.watchers = [w])
    (h : Sound owner id w (e.moment s)) : ∃ w', ((r.wait p).run s).1.watchers = [w'] ∧
      Sound owner id w' (e.moment ((r.wait p).run s).2) := by
  obtain ⟨⟨interruption, s₁⟩, hs⟩ : ∃ t, p.interruption.run s = t := ⟨_, rfl⟩
  have h₁ : Sound owner id w (e.moment s₁) := by
    have ho := hp.interruption s
    rw [hs] at ho
    exact h.onward ho
  simp only [Run.wait, run_bind, hs]
  cases interruption with
  | some interruption => cases interruption <;> exact ⟨w, hr, h₁⟩
  | none =>
    obtain ⟨⟨outcome, s₂⟩, hc⟩ : ∃ t, (p.collect w.descriptor w.readiness).run s₁ = t := ⟨_, rfl⟩
    have h₂ := collect_sound hp h₁ hc
    simp only [hr, run_bind, collectAll_lone hc]
    split
    · exact ⟨_, rfl, h₂.onward (hp.sleep _ s₂)⟩
    · exact ⟨_, rfl, h₂⟩

/-- A turn removes the watcher, or keeps it sound. -/
theorem turn_sound (hp : Hosted p e owner id) {r : Run Worker} (hr : r.watchers = [w])
    (h : Sound owner id w (e.moment s)) {t : Turn Worker} (hrun : (r.turn p).run s = (t, s')) :
    t.watchers = [] ∨ ∃ w', t.watchers = [w'] ∧ Sound owner id w' (e.moment s') := by
  cases hstop : p.stopRequested s with
  | true =>
    rw [Run.turn_stopped r hstop] at hrun
    obtain ⟨rfl, rfl⟩ := Prod.mk.inj hrun
    exact .inr ⟨w, hr, h⟩
  | false =>
    obtain ⟨⟨⟨w₁, found⟩, s₁⟩, hl⟩ : ∃ t, (look p w).run s = t := ⟨_, rfl⟩
    obtain ⟨hnone, hready⟩ := look_sound hp h hl
    cases found with
    | none =>
      rw [Run.turn_lone_wait hr hstop hl] at hrun
      have hwait := wait_sound hp (r := { r with watchers := [w₁] }) rfl (hnone rfl)
      rw [hrun] at hwait
      exact .inr hwait
    | some outcome =>
      rw [Run.turn_lone_ready hr hstop hl rfl] at hrun
      obtain ⟨rfl, rfl⟩ := Prod.mk.inj hrun
      exact iterate_sound hp hready (Option.some_ne_none _)

theorem blocks_sound (hp : Hosted p e owner id) {r : Run Worker} (hr : r.watchers = [w])
    (h : Sound owner id w (e.moment s)) (hb : Blocks p r s [w'] s') :
    Sound owner id w' (e.moment s') := by
  obtain ⟨looked, s₁, s₂, hl, hn, hi, hc⟩ := hb.path
  rw [hr] at hl
  obtain ⟨⟨l, s₁'⟩, hlook⟩ : ∃ t, (look p w).run s = t := ⟨_, rfl⟩
  rw [lookAll_lone hlook] at hl
  obtain ⟨rfl, rfl⟩ := Prod.mk.inj hl
  have h₁ := (look_sound hp h hlook).1 (hn l (List.mem_singleton.mpr rfl))
  have ho := hp.interruption s₁'
  rw [hi] at ho
  obtain ⟨⟨outcome, s₃⟩, hcollect⟩ :
    ∃ t, (p.collect l.1.descriptor l.1.readiness).run s₂ = t := ⟨_, rfl⟩
  have h₂ := collect_sound hp (h₁.onward ho) hcollect
  rw [List.map_singleton, collectAll_lone hcollect] at hc
  obtain ⟨hw, rfl⟩ := Prod.mk.inj hc
  cases hw
  exact h₂

/-! ## What can be reached -/

/-- The watcher of a transmitter on a ring as it was made. The ring is attached, and as there is
room there is an event. -/
structure Registered (e : Setting σ) (owner : SocketId) (r : Ring) (w : Watcher Worker) (s : σ) :
    Prop where
  fresh : r.Fresh (e.host s)
  direction : r.direction = .send
  sendOffset_le : sendOffset ≤ r.slotSize
  socket : r.socket = some ⟨owner⟩
  active : (e.host s).activeMapping? owner .send = some r.mapping
  orderly : IsOrderly (e.host s).script
  unasked : (e.host s).notice? owner = none
  worker : ∃ x, w.worker = .transmitter x ∧ x.channel = .ring r
  descriptor : w.descriptor = owner.number
  readiness : w.readiness = .writable
  event : e.pending s

/-- The watcher and its surroundings after any number of turns, in any number of runs, while the
kernel goes on. A run may be given up between two turns or while it waits. -/
inductive Reachable (p : Platform σ Worker) (e : Setting σ) (owner : SocketId) (r₀ : Ring) :
    Watcher Worker → σ → Prop where
  | start {w : Watcher Worker} {s : σ} (h : Registered e owner r₀ w s) : Reachable p e owner r₀ w s
  | onward {w : Watcher Worker} {s s' : σ} (h : Reachable p e owner r₀ w s)
    (ho : Onward owner r₀.mapping (e.moment s) (e.moment s')) : Reachable p e owner r₀ w s'
  | turn {w w' : Watcher Worker} {s s' : σ} {r : Run Worker} {t : Turn Worker}
    (h : Reachable p e owner r₀ w s) (hr : r.watchers = [w]) (ht : (r.turn p).run s = (t, s'))
    (hw : t.watchers = [w']) : Reachable p e owner r₀ w' s'
  | blocks {w w' : Watcher Worker} {s s' : σ} {r : Run Worker} (h : Reachable p e owner r₀ w s)
    (hr : r.watchers = [w]) (hb : Blocks p r s [w'] s') : Reachable p e owner r₀ w' s'

variable {r₀ : Ring}

theorem Registered.sound (h : Registered e owner r₀ w s) :
    Sound owner r₀.mapping w (e.moment s) :=
  ⟨_, ⟨.start h.fresh h.direction h.sendOffset_le h.orderly h.socket h.active h.unasked, rfl, rfl,
    h.worker, h.descriptor, h.readiness⟩, fun _ => .inr (.inr (.inr h.event))⟩

theorem Reachable.sound (hp : Hosted p e owner r₀.mapping) (h : Reachable p e owner r₀ w s) :
    Sound owner r₀.mapping w (e.moment s) := by
  induction h with
  | start h => exact h.sound
  | onward _ ho ih => exact ih.onward ho
  | turn _ hr ht hw ih =>
    rcases turn_sound hp hr ih ht with hnil | ⟨w'', hone, hsound⟩
    · cases hnil.symm.trans hw
    · cases hone.symm.trans hw
      exact hsound
  | blocks _ hr hb ih => exact blocks_sound hp hr ih hb

/-- A run without watchers ends without watchers. -/
theorem loop_nil (fuel : Nat) {r : Run Worker} (hr : r.watchers = []) (s : σ) :
    ((Run.loop p fuel r).run s).1.2 = [] := by
  cases fuel with
  | zero => exact hr
  | succ fuel =>
    rw [Run.loop, run_bind]
    cases hstop : p.stopRequested s with
    | true =>
      rw [Run.turn_stopped r hstop]
      exact hr
    | false =>
      rw [Run.turn_deserted hstop hr]
      rfl

/-- Whatever watcher a run leaves can be reached. -/
theorem Reachable.loop (hp : Hosted p e owner r₀.mapping) (fuel : Nat) {r : Run Worker}
    (h : Reachable p e owner r₀ w s) (hr : r.watchers = [w])
    (hw : ((Run.loop p fuel r).run s).1.2 = [w']) :
    Reachable p e owner r₀ w' ((Run.loop p fuel r).run s).2 := by
  induction fuel generalizing r w s with
  | zero =>
    cases hr.symm.trans hw
    exact h
  | succ fuel ih =>
    obtain ⟨⟨t, s₁⟩, ht⟩ : ∃ t, (r.turn p).run s = t := ⟨_, rfl⟩
    have hsound := turn_sound hp hr (h.sound hp) ht
    rw [Run.loop, run_bind, ht] at hw ⊢
    cases t with
    | ended ending ws => exact h.turn hr ht hw
    | next r' =>
      rcases hsound with hnil | ⟨w₁, hone, -⟩
      · cases (loop_nil fuel hnil s₁).symm.trans hw
      · exact ih (h.turn hr ht hone) hone hw

/-! ## Sleeping -/

/-- The watcher waits for an event, and there is none. -/
structure IsAsleep (e : Setting σ) (w : Watcher Worker) (s : σ) : Prop where
  armed : w.armed = false
  resumeAt : w.resumeAt = none
  flagged : w.flagged = false
  pending : ¬ e.pending s

/-- There is nothing to do: no slot can be claimed, and the kernel was told of all frames. -/
structure IsJustified (r : Ring) (h : Host) : Prop where
  unclaimable : r.acquireWrite.run h = (.ok none, h)
  told : ∀ i, i < r.capacity → (r.memory h).status i ≠ sendRequest

/-- What holds of a ring while its transmitter sleeps. -/
structure Slumbers (owner : SocketId) (r : Ring) (h : Host) : Prop where
  /-- There is nothing to do exactly if the frame of the slot at the cursor was not refused and the
  kernel was told the last time that a frame was submitted. -/
  isJustified_iff : IsJustified r h ↔
    (r.memory h).status r.cursor ≠ wrongFormat ∧ h.isTold owner = true
  /-- The slot at the cursor can be claimed exactly if its frame was refused. -/
  claimable_iff : (∃ slot, r.acquireWrite.run h = (.ok (some slot), h)) ↔
    (r.memory h).status r.cursor = wrongFormat
  /-- If there is nothing to do, the frame in the slot at the cursor is being sent. -/
  sending : IsJustified r h → (r.memory h).status r.cursor = sending
  /-- When the kernel leaves the slot at the cursor free there is an event. -/
  woken : ∀ m, Onward owner r.mapping ⟨h, False⟩ m → (r.memory m.host).status r.cursor = free →
    m.pending

/-- Of the slots that are not free those with a refused frame can be claimed. -/
theorem isClaimable_iff_of_not_free (hi : T.Inv) {i : Nat} (h : i < T.ring.capacity)
    (hn : T.memory.status i ≠ free) :
    IsClaimable T.memory i ↔ T.memory.status i = wrongFormat := by
  unfold IsClaimable
  rcases hi.status_cases h with hf | hs | hs | hs
  · exact absurd hf hn
  · rw [hs]
    decide
  · rw [hs]
    decide
  · rw [hs]
    decide

theorem Fits.slumbers (h : Fits owner id w m T) (hn : T.memory.status T.ring.cursor ≠ free) :
    Slumbers owner T.ring T.host := by
  have hi := h.attached.inv
  have hclaim := isClaimable_iff_of_not_free hi h.cursor_lt hn
  have hnone : T.ring.acquireWrite.run T.host = (.ok none, T.host) ↔
      T.memory.status T.ring.cursor ≠ wrongFormat := by
    rw [acquireWrite_run hi.direction, Prod.mk.injEq, Except.ok.injEq, eq_self, and_true,
      writeSlot?_eq_none_iff]
    exact not_congr hclaim
  have htold : (∀ i, i < T.ring.capacity → T.memory.status i ≠ sendRequest) ↔
      T.host.isTold owner = true :=
    hi.none_waits_iff.trans h.attached.told_iff.symm
  refine ⟨⟨fun hj => ⟨hnone.mp hj.unclaimable, htold.mp hj.told⟩,
    fun hj => ⟨hnone.mpr hj.1, htold.mpr hj.2⟩⟩, ?_, fun hj => ?_, fun m' ho hf => ?_⟩
  · exact hi.acquire_iff.trans (hi.isClaimable_cursor_iff.symm.trans hclaim)
  · rcases hi.status_cases h.cursor_lt with hf | hr | hs | hw
    · exact absurd hf hn
    · exact absurd hr (hj.told _ h.cursor_lt)
    · exact hs
    · exact absurd hw (hnone.mp hj.unclaimable)
  · obtain ⟨T', ha, hring, hhost, hfree⟩ := h.attached.onward ho rfl rfl
    rw [← hhost, ← hring] at hf
    exact (hfree _ h.cursor_lt (hring ▸ hf)).resolve_left hn

/-- While a transmitter sleeps the slot at the cursor is not free. It sleeps rightly unless the
frame of that slot was refused or the kernel was not told of the last frame. -/
theorem asleep_slumbers (hp : Hosted p e owner r₀.mapping) (h : Reachable p e owner r₀ w s)
    (hs : IsAsleep e w s) : ∃ x r, w.worker = .transmitter x ∧ x.channel = .ring r ∧
      r.mapping = r₀.mapping ∧ Slumbers owner r (e.host s) := by
  obtain ⟨T, hf, halert⟩ := h.sound hp
  obtain ⟨x, hx, hc⟩ := hf.worker
  have hn : T.memory.status T.ring.cursor ≠ free := by
    intro hfree
    rcases halert hfree with ha | hr | hx | hp
    · rw [hs.armed] at ha
      cases ha
    · rw [hs.resumeAt] at hr
      cases hr
    · rw [hs.flagged] at hx
      cases hx
    · exact hs.pending hp
  have hslumbers := hf.slumbers hn
  rw [hf.host] at hslumbers
  exact ⟨x, T.ring, hx, hc, hf.mapping, hslumbers⟩

/-! ## A transmitter on the smallest ring -/

/-- The smallest ring for sending, of the first socket. -/
def soloRing : Ring := pair .send (some ⟨⟨0⟩⟩)

/-- Its transmitter sends a test frame every tenth of a second. -/
def soloWatcher : Watcher Worker :=
  Session.watcherOf (.transmitter {
    channel := .ring soloRing
    plan := {
      kind := .ieee8023, source := .broadcast, sap := 0x88B5, interfaceIndex := 3,
      payloadLength := 3, delay := 100 } })

/-- Its world, in which the kernel leaves these status words behind with the first frames. -/
def soloWorld (left : List Nat) : Session.World where
  host := pairHost .send (some ⟨⟨0⟩⟩) { sentStatus := left }
  schedule := .signals
  event := true

/-- What the first turns lead to. -/
def soloRun (left : List Nat) (turns : Nat) :
    (Ending × List (Watcher Worker)) × Session.World :=
  (Run.loop Session.surroundings turns { watchers := [soloWatcher] }).run (soloWorld left)

/-- Whether a run has left a watcher that sleeps, with this status word in the slot at the cursor of
its ring. -/
def sleepsOn (word : Nat) (out : (Ending × List (Watcher Worker)) × Session.World) : Bool :=
  match out.1.2 with
  | [⟨_, _, _, .transmitter ⟨.ring r, _, _⟩, false, false, none, none⟩] =>
    !out.2.event && (r.memory out.2.host).status r.cursor = word
  | _ => false

theorem exists_of_sleepsOn {word : Nat} {out : (Ending × List (Watcher Worker)) × Session.World}
    (h : sleepsOn word out = true) : ∃ w x r, out.1.2 = [w] ∧ IsAsleep worldSetting w out.2 ∧
      w.worker = .transmitter x ∧ x.channel = .ring r ∧
        (r.memory out.2.host).status r.cursor = word := by
  obtain ⟨⟨ending, ws⟩, world⟩ := out
  unfold sleepsOn at h
  split at h
  · rename_i label d readiness r plan sent hws
    simp only [Bool.and_eq_true, Bool.not_eq_true', decide_eq_true_eq] at h
    exact ⟨_, _, r, hws, ⟨rfl, rfl, rfl, Bool.eq_false_iff.mp h.1⟩, rfl, rfl, h.2⟩
  · cases h

theorem isOrderly_of_mem {left : List Nat}
    (h : ∀ word ∈ left, word = free ∨ word = sending ∨ word = wrongFormat) :
    IsOrderly { sentStatus := left } := by
  intro n
  show left.getD n free = free ∨ left.getD n free = sending ∨ left.getD n free = wrongFormat
  rw [List.getD_eq_getElem?_getD]
  cases hn : left[n]? with
  | none => exact .inl rfl
  | some word => exact h word (List.mem_of_getElem? hn)

theorem solo_registered {left : List Nat} (ho : IsOrderly { sentStatus := left }) :
    Registered worldSetting ⟨0⟩ soloRing soloWatcher (soloWorld left) where
  fresh := pair_fresh _ _ _
  direction := rfl
  sendOffset_le := by decide
  socket := rfl
  active := by
    simp only [worldSetting, soloWorld, pairHost, activeMapping?, Option.map_some,
      List.findIdx?_toArray, List.findIdx?_cons, decide_true, Bool.and_self, if_true]
    rfl
  orderly := ho
  unasked := rfl
  worker := ⟨_, rfl, rfl⟩
  descriptor := rfl
  readiness := rfl
  event := rfl

theorem solo_reachable {left : List Nat} (ho : IsOrderly { sentStatus := left }) (turns : Nat)
    (hw : (soloRun left turns).1.2 = [w]) :
    Reachable Session.surroundings worldSetting ⟨0⟩ soloRing w (soloRun left turns).2 :=
  Reachable.loop (surroundings_hosted _ _) turns (.start (solo_registered ho)) rfl hw

/-- Both frames are being sent, and the transmitter sleeps. -/
theorem asleep_slumbers_solo : ∃ w s,
    Reachable Session.surroundings worldSetting ⟨0⟩ soloRing w s ∧ IsAsleep worldSetting w s ∧
      ∃ x r, w.worker = .transmitter x ∧ x.channel = .ring r ∧ r.mapping = soloRing.mapping ∧
        Slumbers ⟨0⟩ r s.host := by
  have hs : sleepsOn sending (soloRun [sending, sending] 6) = true := by decide +kernel
  obtain ⟨w, -, -, hw, hasleep, -⟩ := exists_of_sleepsOn hs
  have h := solo_reachable (isOrderly_of_mem (by decide)) 6 hw
  exact ⟨w, _, h, hasleep, asleep_slumbers (surroundings_hosted _ _) h hasleep⟩

/-- Both frames were refused, and the transmitter sleeps with a slot to be claimed. -/
theorem asleep_refused_solo : ∃ w s x r,
    Reachable Session.surroundings worldSetting ⟨0⟩ soloRing w s ∧ IsAsleep worldSetting w s ∧
      w.worker = .transmitter x ∧ x.channel = .ring r ∧
        ∃ slot, r.acquireWrite.run s.host = (.ok (some slot), s.host) := by
  have hs : sleepsOn wrongFormat (soloRun [wrongFormat, wrongFormat] 6) = true := by
    decide +kernel
  obtain ⟨w, x, r, hw, hasleep, hx, hr, hword⟩ := exists_of_sleepsOn hs
  have h := solo_reachable (isOrderly_of_mem (by decide)) 6 hw
  obtain ⟨T, hf, -⟩ := h.sound (surroundings_hosted _ _)
  obtain ⟨y, hy, hchannel⟩ := hf.worker
  cases hx.symm.trans hy
  cases hr.symm.trans hchannel
  have hstatus : T.memory.status T.ring.cursor = wrongFormat := by
    rw [Transmission.memory, hf.host]
    exact hword
  have hclaim : IsClaimable T.memory T.ring.cursor := .inr (by rw [hstatus]; decide)
  have hslot := hf.attached.inv.acquire_iff.mpr (hf.attached.inv.isClaimable_cursor_iff.mp hclaim)
  rw [hf.host] at hslot
  exact ⟨w, _, x, T.ring, h, hasleep, hx, hr, hslot⟩

end PacketLink.Traffic
