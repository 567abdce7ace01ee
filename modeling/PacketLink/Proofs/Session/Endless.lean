import PacketLink.Proofs.Session.Termination
import PacketLink.Proofs.Traffic.DeadSocket

/-!
# Sessions without end

A receiver does not find out that its socket is dead, and while its worker is called again and again
no time passes. So the time at which such a session is to stop never comes.

* `Run.loop_endless`: a proof about the loop from a proof about one turn, with an invariant that
  every turn keeps and that lets none of them be the last.
* `Severed script`: receiving fails for ever, and so does looking at a descriptor.
* `Lured`: a run with a receiver from such a socket that has or will have something to be called
  for. A turn keeps that (`Lured.turn`).
* `runWorker_endless`: so the event loop over that receiver is given up, however many turns it may
  take.
-/

namespace PacketLink.Reactor

variable {σ β : Type} {p : Platform σ β}

/-- A loop is given up if no turn can be its last. -/
theorem Run.loop_endless {inv : Run β → σ → Prop}
    (step : ∀ r s, inv r s → ∃ r' s', (r.turn p).run s = (.next r', s') ∧ inv r' s')
    (turns : Nat) (r : Run β) (s : σ) (hi : inv r s) :
    ((loop p turns r).run s).1.1 = .abandoned := by
  induction turns generalizing r s with
  | zero => rfl
  | succ turns ih =>
    obtain ⟨r', s', ht, hi'⟩ := step r s hi
    rw [loop, run_bind, ht]
    exact ih r' s' hi'

end PacketLink.Reactor

namespace PacketLink.Session

open Host Reactor Traffic

variable {script : Script} {socket : PacketSocket} {r : Run Worker} {w : World} {x : Receiver}

/-! ## Sockets that are cut off -/

/-- No call that receives ever succeeds, and neither does a look at a descriptor, because the
descriptor is not valid. -/
structure Severed (script : Script) : Prop where
  receive : ∀ n, script.failure .receive n = Errno.badDescriptor.code
  poll : ∀ n, script.failure .poll n = Errno.badDescriptor.code

/-- The session goes on with this script. -/
def GoesOn (script : Script) (w : World) : Prop := w.stopped = false ∧ w.host.script = script

theorem goesOn_onHost {α : Type} {act : Sys α} (ha : Advances act) :
    Stays (GoesOn script) (onHost act) :=
  fun w hw => ⟨hw.1, (ha w.host).script.trans hw.2⟩

theorem surroundings_receives : Receives surroundings .receiver World.host where
  onReady _ _ := rfl
  afterError _ := rfl

theorem Severed.receive_run {h : Host} (hs : Severed h.script) (s : SocketId) (length : Nat) :
    ((Host.receive s length).run h).1 = .error .badDescriptor := by
  have hcode : ((enter .receive).run h).1 = Errno.badDescriptor.code := hs.receive _
  rw [Host.receive, attempt, run_bind, hcode]
  rfl

theorem Severed.probe_run {h : Host} (hs : Severed h.script) (level : Host → Bool) :
    ((probe level).run h).1 = .error .badDescriptor := by
  have hcode : ((enter .poll).run h).1 = Errno.badDescriptor.code := hs.poll _
  rw [Host.probe, run_bind, hcode]
  rfl

theorem Severed.isDead (hs : Severed script) (socket : PacketSocket) :
    IsDead surroundings World.host socket (GoesOn script) where
  abides := ⟨fun d readiness => goesOn_onHost (lookAt_advances d readiness),
    fun b => goesOn_onHost b.onReady_advances, fun e => goesOn_onHost (report_advances e)⟩
  probe w readiness hw := by
    obtain ⟨-, rfl⟩ := hw
    cases readiness with
    | readable =>
      have hscript := (arrive_advances socket.id w.host).script
      have hs' : Severed ((arrive socket.id).run w.host).2.script := hscript.symm ▸ hs
      exact hs'.probe_run _
    | writable => exact hs.probe_run _
  receive w length hw := by
    obtain ⟨-, rfl⟩ := hw
    exact hs.receive_run socket.id length

/-! ## Receivers that are called for ever -/

/-- The watcher of a receiver from this socket that neither pauses nor is armed. -/
structure Attached (socket : PacketSocket) (v : Watcher Worker) : Prop where
  descriptor : v.descriptor = socket.id.number
  worker : ReceivesFrom .receiver socket v.worker
  resumeAt : v.resumeAt = none
  broken : v.broken = none
  unarmed : v.armed = false

/-- A run with such a watcher, which has or will have something to be called for. -/
inductive Lured (socket : PacketSocket) (r : Run Worker) (w : World) : Prop where
  | armed {v : Watcher Worker} (hv : v ∈ r.watchers)
    (ha : Armed (ReceivesFrom .receiver socket) socket.id.number v)
  /-- Its event was collected. -/
  | flagged {v : Watcher Worker} (hr : r.watchers = [v]) (hv : Attached socket v)
    (hf : v.flagged = true)
  /-- Its event waits, and the loop may wait for it. -/
  | expected {v : Watcher Worker} (hr : r.watchers = [v]) (hv : Attached socket v)
    (hf : v.flagged = false) (hi : interruption.run w = (none, w)) (he : w.event = true)
    (hl : level w.host v.descriptor v.readiness = true)

/-- It is called if its event was collected. -/
theorem Attached.look_flagged {v : Watcher Worker} (hv : Attached socket v)
    (hf : v.flagged = true) (w : World) :
    (look surroundings v).run w = (({ v with flagged := false }, some (.ok ())), w) := by
  simp only [look, hv.resumeAt, lookAwake, hv.unarmed, hv.broken, hf, if_true,
    Bool.false_eq_true, if_false, run_pure]

/-- A turn collects its event, if it is alone, the event waits, and the loop may wait for it. -/
theorem Attached.turn_collects {v : Watcher Worker} (hv : Attached socket v) (hr : r.watchers = [v])
    (hf : v.flagged = false) (hstop : surroundings.stopRequested w = false)
    (hi : interruption.run w = (none, w)) (he : w.event = true)
    (hl : level w.host v.descriptor v.readiness = true) :
    (r.turn surroundings).run w =
      (.next { r with watchers := [{ v with flagged := true }] }, { w with event := false }) := by
  have hlook : (look surroundings v).run w = ((v, none), w) := by
    rw [look_awake hv.resumeAt hf hv.broken, hv.unarmed]
    rfl
  have hfound : (surroundings.collect v.descriptor v.readiness).run w =
      (.ok true, { w with event := false }) := by
    show (Except.ok (w.event && level w.host v.descriptor v.readiness), _) = _
    rw [he, hl]
    rfl
  have hcollect : (collectAll surroundings [v]).run w =
      ([{ v with flagged := true }], { w with event := false }) := by
    rw [collectAll_lone hfound, Watcher.collected, Bool.or_true]
  have hroused : ({ v with flagged := true } : Watcher Worker).isRoused = true := by
    rw [Watcher.isRoused, hv.resumeAt]
    rfl
  have hi' : surroundings.interruption.run w = (none, w) := hi
  rw [Run.turn_lone_wait hr hstop hlook, Run.wait, run_bind, hi']
  simp only [run_bind, hcollect, List.any_cons, hroused]
  rfl

/-- No turn of such a run is its last. -/
theorem Lured.turn (hs : Severed script) (h : Lured socket r w) (hw : GoesOn script w) :
    ∃ r' w', (r.turn surroundings).run w = (.next r', w') ∧ Lured socket r' w' ∧
      GoesOn script w' := by
  have hu := (hs.isDead socket).unaware surroundings_receives
  have hstop : surroundings.stopRequested w = false := hw.1
  cases h with
  | @armed v hv ha =>
    obtain ⟨-, r', w', -, ht, hw', ⟨v', hv', ha'⟩, -⟩ := hu.turn hw hv ha hstop
    exact ⟨r', w', ht, .armed hv' ha', hw'⟩
  | @flagged v hr hv hf =>
    have hl : ({ v with flagged := false }, some (.ok ())) ∈
        ((lookAll surroundings r.watchers).run w).1 := by
      rw [hr, lookAll_lone (hv.look_flagged hf w)]
      exact List.mem_singleton_self _
    obtain ⟨-, r', w', -, ht, hw', ⟨v', hv', ha'⟩, -⟩ :=
      hu.turn_ready hw hl hv.descriptor hv.worker hstop
    exact ⟨r', w', ht, .armed hv' ha', hw'⟩
  | @expected v hr hv hf hi he hl =>
    exact ⟨_, _, hv.turn_collects hr hf hstop hi he hl,
      .flagged rfl ⟨hv.descriptor, hv.worker, hv.resumeAt, hv.broken, hv.unarmed⟩ rfl, hw⟩

/-- The event loop over a receiver from such a socket is given up, however many turns it may take,
if there is an event to collect before the time to stop comes. -/
theorem runWorker_endless (hs : Severed w.host.script) (hc : x.channel = .socket socket)
    (hstop : w.stopped = false) (hi : interruption.run w = (none, w)) (he : w.event = true)
    (hl : level w.host socket.id.number .readable = true) (turns : Nat) :
    ((runWorker turns (.receiver x)).run w).1.1 = some .abandoned := by
  have hdescriptor : (watcherOf (.receiver x)).descriptor = socket.id.number := by
    show ((socketOf x.channel).map fun s => s.id.number).getD 0 = _
    rw [hc]
    rfl
  have hv : Attached socket (watcherOf (.receiver x)) := ⟨hdescriptor, ⟨x, rfl, hc⟩, rfl, rfl, rfl⟩
  have hlured : Lured socket { watchers := [watcherOf (.receiver x)] } w :=
    .expected rfl hv rfl hi he (by rw [hdescriptor]; exact hl)
  have hturn (r : Run Worker) (w' : World) (h : Lured socket r w' ∧ GoesOn w.host.script w') :
      ∃ r' w'', (r.turn surroundings).run w' = (.next r', w'') ∧ Lured socket r' w'' ∧
        GoesOn w.host.script w'' := h.1.turn hs h.2
  exact congrArg some (Run.loop_endless hturn turns _ w ⟨hlured, hstop, rfl⟩)

end PacketLink.Session
