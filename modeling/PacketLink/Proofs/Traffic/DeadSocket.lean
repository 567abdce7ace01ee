import PacketLink.Proofs.Reactor.Probes
import PacketLink.Traffic.Worker

/-!
# Receiving from a dead socket

A socket that was closed behind the back of its receiver fails every probe and every call. The
receiver takes that for the failure of one frame, whatever the error number.

* `Receiver.onReady_run_error`: what a receiver makes of a failed call.
* `Receives p inject host`: some of the workers are receivers, and these are the hosts they work on.
* `IsDead p host socket P`: while `P` holds, which is for good, the descriptor of a socket is dead.
* `Aftermath`: what becomes of the watcher once a probe has failed. At the end of a pause it is
  removed. After a call it is called in every turn, each time for one more failed frame, until the
  run is asked to stop.
* `dead_socket_aftermath`: so it is, however many watchers there are and whatever the others do.
-/

namespace PacketLink

open Host

namespace Receiver

variable {x : Receiver} {socket : PacketSocket} {cause : Errno} {h : Host}

/-- A failed call costs a receiver one frame, and nothing else changes. -/
theorem onReady_run_error (hc : x.channel = .socket socket)
    (hr : ∀ length, ((receive socket.id length).run h).1 = .error cause)
    (he : cause ≠ .wouldBlock) :
    (x.onReady.run h).1 = (.error (.transport "recv" cause), x) := by
  obtain ⟨channel, kind, buffer, received⟩ := x
  obtain rfl : channel = .socket socket := hc
  have hreceive : ((socket.receive buffer).run h).1 = (.error cause, buffer) := by
    rw [PacketSocket.receive, run_bind, hr]
    rfl
  simp only [onReady, take, takeFromSocket, run_bind, hreceive, he, if_false, run_pure]

/-- A receiver stays with its socket. -/
theorem onReady_channel (hc : x.channel = .socket socket) (h : Host) :
    (x.onReady.run h).1.2.channel = .socket socket := by
  have htake : (x.take.run h).1.2.channel = .socket socket := by
    simp only [take, hc, run_bind, run_pure]
  rw [onReady, run_bind]
  generalize x.take.run h = taken at htake
  obtain ⟨⟨_ | _ | f, x'⟩, h'⟩ := taken
  · exact htake
  · exact htake
  · exact htake

end Receiver

end PacketLink

namespace PacketLink.Traffic

open Host Reactor

variable {σ β : Type} {p : Platform σ β} {inject : Receiver → β} {host : σ → Host}
  {socket : PacketSocket} {P : σ → Prop} {r r' : Run β} {s s' : σ} {x : Encounter σ β}
  {xs : List (Encounter σ β)} {answer : Except LinkError Dispatch} {left : β}

/-- Some of the workers are receivers. Each of their turns is a turn on the host of that moment. -/
structure Receives (p : Platform σ β) (inject : Receiver → β) (host : σ → Host) : Prop where
  onReady : ∀ x s, ((p.onReady (inject x)).run s).1 =
    ((x.onReady.run (host s)).1.1, inject (x.onReady.run (host s)).1.2)
  afterError : ∀ x, p.afterError (inject x) = Receiver.afterError

/-- While `P` holds the descriptor of a socket is not valid. Nothing that the loop does while it
serves changes that. -/
structure IsDead (p : Platform σ β) (host : σ → Host) (socket : PacketSocket) (P : σ → Prop) :
    Prop where
  abides : Abides p P
  probe : ∀ s readiness, P s →
    ((p.probe socket.id.number readiness).run s).1 = .error .badDescriptor
  receive : ∀ s length, P s → ((receive socket.id length).run (host s)).1 = .error .badDescriptor

/-- Some of the workers receive from this socket. -/
def ReceivesFrom (inject : Receiver → β) (socket : PacketSocket) (b : β) : Prop :=
  ∃ x, b = inject x ∧ x.channel = .socket socket

/-- What becomes of the watcher of a dead socket, from the end of the turn on in which a probe of
the socket has failed. -/
structure Aftermath (p : Platform σ β) (socket : PacketSocket) (x : Encounter σ β)
    (c : Run β × σ) : Prop where
  /-- If that was at the end of a pause, the watcher is removed, and was not called. -/
  uncalled : x.fate.isCalled = false → socket.id.number ∉ c.1.watchers.map (·.descriptor)
  /-- If it was after a call, every turn that follows calls the watcher once more. Each call counts
  as the failure of one frame, and the watcher stays. -/
  called : x.fate.isCalled = true → ∀ n its c', Reaches p c n its c' → its.length = n ∧
    (∀ ys ∈ its, FailsIn socket.id.number (.transport "recv" .badDescriptor) ys) ∧
    c.1.stats.frameErrors + n ≤ c'.1.stats.frameErrors ∧
    socket.id.number ∈ c'.1.watchers.map (·.descriptor)
  /-- That goes on until the run is asked to stop. -/
  stopped : x.fate.isCalled = true → ∀ n its r s ending ws s', Reaches p c n its (r, s) →
    (r.turn p).run s = (.ended ending ws, s') → p.stopRequested s = true
  /-- So it depends on the probe that has failed whether the watcher is gone when it has been called
  again. -/
  gone_iff : p.stopRequested c.2 = false →
    (GoneWhenCalled p socket.id.number c ↔ x.fate.isCalled = false)

/-- A receiver does not find out that its socket is dead. -/
theorem IsDead.unaware (hd : IsDead p host socket P) (hr : Receives p inject host) :
    Unaware p P (ReceivesFrom inject socket) socket.id.number
      (.transport "recv" .badDescriptor) where
  abides := hd.abides
  probe s readiness hs := ⟨_, hd.probe s readiness hs⟩
  onReady b s hb hs := by
    obtain ⟨x, rfl, hc⟩ := hb
    have hne : Errno.badDescriptor ≠ .wouldBlock := by decide
    refine ⟨inject x, ?_, x, rfl, hc⟩
    rw [hr.onReady, Receiver.onReady_run_error hc (fun length => hd.receive s length hs) hne]
  frame := rfl
  afterError b hb := by
    obtain ⟨x, rfl, -⟩ := hb
    exact hr.afterError x

/-- A call leaves a receiver with its socket. -/
theorem Receives.receivesFrom (hr : Receives p inject host) {b : β}
    (hb : ReceivesFrom inject socket b)
    (hrun : (p.onReady b).run s = ((answer, left), s')) : ReceivesFrom inject socket left := by
  obtain ⟨x, rfl, hc⟩ := hb
  have hturn := hr.onReady x s
  rw [hrun] at hturn
  exact ⟨_, congrArg Prod.snd hturn, Receiver.onReady_channel hc (host s)⟩

/-- A probe that finds the socket dead after a call arms the watcher once more. -/
theorem armed_of_probeFails (hr : Receives p inject host) (hd : IsDead p host socket P)
    (hx : r.iteration? p s = some xs) (ht : (r.turn p).run s = (.next r', s')) (hmem : x ∈ xs)
    (hdescriptor : x.watcher.descriptor = socket.id.number)
    (hworker : ReceivesFrom inject socket x.watcher.worker)
    (hfails : x.ProbeFails p P .badDescriptor) (hcalled : x.fate.isCalled = true) :
    P s' ∧ ∃ w ∈ r'.watchers, Armed (ReceivesFrom inject socket) socket.id.number w := by
  obtain ⟨looked, s₁, hserving⟩ := Run.serving hx
  cases hf : x.fate with
  | waited => simp [hf, Fate.isCalled] at hcalled
  | failed cause => simp [hf, Fate.isCalled] at hcalled
  | answered answer left =>
    have hleft := hr.receivesFrom hworker (meetAll_run (hserving.met ▸ hmem) hf)
    obtain ⟨hstays, hs'⟩ := hserving.armed hd.abides ht hmem hfails hf
    exact ⟨hs', _, hstays, hdescriptor, hleft, rfl, (Run.iterated hx ht).resumeAt_eq_none hmem hf⟩

/-- When a probe has found the socket of a receiver dead at the end of a pause, its watcher is
removed. When a probe has found that after a call, whether a frame was moved or failed, the watcher
is called in every turn from then on and never removed. -/
theorem dead_socket_aftermath (hr : Receives p inject host) (hd : IsDead p host socket P)
    (hdistinct : (r.watchers.map (·.descriptor)).Nodup) (hx : r.iteration? p s = some xs)
    (ht : (r.turn p).run s = (.next r', s')) (hmem : x ∈ xs)
    (hdescriptor : x.watcher.descriptor = socket.id.number)
    (hworker : ReceivesFrom inject socket x.watcher.worker)
    (hfails : x.ProbeFails p P .badDescriptor) : Aftermath p socket x (r', s') := by
  cases hcalled : x.fate.isCalled with
  | true =>
    have hu := hd.unaware hr
    obtain ⟨hs', w, hw, harmed⟩ :=
      armed_of_probeFails hr hd hx ht hmem hdescriptor hworker hfails hcalled
    refine ⟨by simp [hcalled], fun _ n its c' h => ?_, fun _ n its r₂ s₂ ending ws s₃ h ht₂ =>
      hu.stopped hs' hw harmed h ht₂, fun hstop => ?_⟩
    · obtain ⟨-, ⟨w', hw', harmed'⟩, hlength, hall, hcount⟩ := hu.reaches hs' hw harmed h
      exact ⟨hlength, hall, hcount, List.mem_map.mpr ⟨w', hw', harmed'.descriptor⟩⟩
    · exact iff_of_false (hu.not_goneWhenCalled hs' hw harmed hstop) (by simp [hcalled])
  | false =>
    have hfailure : x.fate.failure.isSome = true := by
      cases hfails with
      | resumed hf => rw [hf]; rfl
      | handled hf => simp [hf, Fate.isCalled] at hcalled
      | excused hf => simp [hf, Fate.isCalled] at hcalled
    have hgone := (Run.iterated hx ht).removed hdistinct hmem hfailure
    rw [hdescriptor] at hgone
    refine ⟨fun _ => hgone, by simp [hcalled], by simp [hcalled], fun _ => ?_⟩
    exact iff_of_true (goneWhenCalled_of_not_mem hgone) hcalled

/-! ## A socket that is closed -/

/-- A host at which one frame waits for a socket, or at which the socket is closed. -/
def closingHost (isOpen : Bool) : Host :=
  if isOpen then { Host.ofScript {} with sockets := #[⟨[List.replicate 15 0xFF]⟩] }
  else .ofScript { failures := [(.receive, [9])] }

/-- Surroundings in which sockets are closed as soon as anybody has been called. -/
def closing : Platform Bool Worker where
  now _ := 0
  stopRequested _ := false
  probe _ _ := fun isOpen => (if isOpen then .ok true else .error .badDescriptor, isOpen)
  onReady b := fun isOpen => ((b.onReady.run (closingHost isOpen)).1, false)
  afterError b := b.afterError
  report _ := pure ()
  interruption := pure none
  collect _ _ := pure (.ok false)
  sleep _ := pure ()

theorem closing_receives : Receives closing .receiver closingHost where
  onReady _ _ := rfl
  afterError _ := rfl

theorem closing_isDead (socket : PacketSocket) :
    IsDead closing closingHost socket fun isOpen => isOpen = false where
  abides := ⟨fun _ _ _ hs => hs, fun _ _ _ => rfl, fun _ _ hs => hs⟩
  probe s _ hs := by
    subst hs
    rfl
  receive s _ hs := by
    subst hs
    rfl

def closingSocket : PacketSocket := ⟨⟨0⟩⟩

/-- A run with a receiver that is about to be called. -/
def closingRun : Run Worker where
  watchers := [{
    label := "rx"
    descriptor := 0
    readiness := .readable
    worker := .receiver { channel := .socket closingSocket, kind := .ieee8023 }
    armed := true }]

set_option maxRecDepth 100000 in
/-- The receiver moves a frame, and then a probe finds the socket closed. -/
theorem closing_fails : ∃ x r', closingRun.iteration? closing true = some [x] ∧
    (closingRun.turn closing).run true = (.next r', false) ∧
    x.watcher.descriptor = closingSocket.id.number ∧
    ReceivesFrom .receiver closingSocket x.watcher.worker ∧ x.fate.isCalled = true ∧
    x.ProbeFails closing (fun isOpen => isOpen = false) .badDescriptor := by
  refine ⟨_, _, rfl, rfl, rfl, ⟨_, rfl, rfl⟩, rfl, .handled rfl rfl rfl⟩

/-- The socket is dead from then on, and the watcher is called again without being gone. -/
theorem closing_not_gone : ∃ x r', closingRun.iteration? closing true = some [x] ∧
    (closingRun.turn closing).run true = (.next r', false) ∧
    x.ProbeFails closing (fun isOpen => isOpen = false) .badDescriptor ∧
    IsDead closing closingHost closingSocket (fun isOpen => isOpen = false) ∧
    ¬ GoneWhenCalled closing closingSocket.id.number (r', false) := by
  obtain ⟨x, r', hx, ht, hdescriptor, hworker, hcalled, hfails⟩ := closing_fails
  have hd := closing_isDead closingSocket
  obtain ⟨hs', w, hw, harmed⟩ := armed_of_probeFails closing_receives hd hx ht
    (List.mem_singleton_self x) hdescriptor hworker hfails hcalled
  exact ⟨x, r', hx, ht, hfails, hd,
    (hd.unaware closing_receives).not_goneWhenCalled hs' hw harmed rfl⟩

theorem dead_socket_aftermath_closing : ∃ x r', x.fate.isCalled = true ∧
    Aftermath closing closingSocket x (r', false) := by
  obtain ⟨x, r', hx, ht, hdescriptor, hworker, hcalled, hfails⟩ := closing_fails
  exact ⟨x, r', hcalled, dead_socket_aftermath (r := closingRun) closing_receives
    (closing_isDead closingSocket)
    (List.nodup_singleton _) hx ht (List.mem_singleton_self x) hdescriptor hworker hfails⟩

end PacketLink.Traffic
