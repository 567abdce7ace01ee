import PacketLink.Proofs.Reactor.Shutdown
import PacketLink.Proofs.Session.World
import PacketLink.Proofs.Traffic.Backlog
import PacketLink.Proofs.Traffic.Steps

/-!
# When a session notices a signal

Whoever hears of signals runs only while the event loop waits, and the loop waits only if nobody
is ready. A receiver is armed as long as packets wait, so the signal has to wait for all of them.

* `IsRaised`: a signal has arrived, and the session was not asked to stop.
* `Serves`: the loop is about to call a receiver for which packets wait, while others are still to
  arrive.
* `Deferred`: what follows from a signal: the loop goes on as long as somebody is ready, ends as
  soon as nobody is, and so takes one iteration for each packet that waits or arrives meanwhile.
* `signal_deferred`: that follows whatever the loop was doing when the signal arrived.
* `signal_late_four`: a session that begins three more iterations after a signal.
-/

namespace PacketLink.Session

open Host Reactor

variable {r : Run Worker} {w : World} {kind : FrameKind} {packet : Bytes} {packets : List Bytes}

/-- A signal has arrived, and the session was not asked to stop. -/
structure IsRaised (w : World) : Prop where
  schedule : w.schedule = .signals
  running : w.stopped = false
  signal : w.host.signal.isSome = true

theorem onHost_isRaised {α : Type} {act : Sys α} (ha : Advances act) :
    Stays IsRaised (onHost act) :=
  fun w hw => ⟨hw.schedule, hw.running, (ha w.host).signal hw.signal⟩

/-- A signal goes unheard until the loop waits. -/
theorem surroundings_unheard : Unheard surroundings IsRaised where
  running _ hw := hw.running
  probe d readiness := onHost_isRaised (lookAt_advances d readiness)
  onReady b := onHost_isRaised b.onReady_advances
  report e := onHost_isRaised (report_advances e)
  interruption w hw := by
    obtain ⟨signal, hs⟩ := Option.isSome_iff_exists.mp hw.signal
    show (interruption.run w).1 = some .stop
    unfold interruption
    simp only [run_bind, run_get, hw.schedule, hs]
    rfl

/-! ## Packets that wait -/

/-- A watcher about to call a receiver at whose socket these packets wait, if there are any, and
others are still to arrive. -/
structure IsBusy (v : Watcher Worker) (x : Receiver) (h : Host) (packets : List Bytes)
    (coming : List (List Bytes)) : Prop where
  worker : v.worker = .receiver x
  has : x.Has h ⟨v.descriptor⟩ packets
  coming : h.coming ⟨v.descriptor⟩ = coming
  readiness : v.readiness = .readable
  resumeAt : v.resumeAt = none
  flagged : v.flagged = false
  broken : v.broken = none
  armed : v.armed = !packets.isEmpty

/-- The only watcher of a run is about to call a receiver at whose socket these packets wait, if
there are any, and others are still to arrive. Its socket can be probed. -/
structure Serves (r : Run Worker) (w : World) (kind : FrameKind) (packets : List Bytes)
    (coming : List (List Bytes)) : Prop where
  probes : ∀ n, w.host.script.failure .poll n = 0
  watcher : ∃ v x, r.watchers = [v] ∧ x.kind = kind ∧ IsBusy v x w.host packets coming

/-- What a look at a socket finds: the packets that wait, and those that have arrived with it. -/
structure Sighted (x : Receiver) (h : Host) (owner : SocketId) (packets : List Bytes) (h' : Host) :
    Prop where
  script : h'.script = h.script
  has : x.Has h' owner (packets ++ (h.coming owner).headD [])
  coming : h'.coming owner = (h.coming owner).tail

/-- Looking at a socket tells whether packets wait by now, and leaves them. -/
theorem lookAt_run {x : Receiver} {h : Host} {owner : SocketId}
    (hp : ∀ n, h.script.failure .poll n = 0) (hx : x.Has h owner packets)
    (hs : h.activeMapping? owner .receive = none → owner.number < h.sockets.size) :
    ∃ h', (lookAt owner.number .readable).run h =
        (.ok (!(packets ++ (h.coming owner).headD []).isEmpty), h') ∧
      Sighted x h owner packets h' := by
  obtain ⟨h₁, harrive⟩ : ∃ h₁, (arrive owner).run h = ((), h₁) := ⟨_, rfl⟩
  have hlooks := arrive_looks owner h
  have hactive := arrive_activeMapping? owner owner .receive h
  have hhas := hx.arrive hs
  rw [harrive] at hlooks hactive hhas
  have hscript : h₁.script = h.script := congrArg Prod.fst hlooks
  have hcode : ((enter .poll).run h₁).1 = 0 := by
    show h₁.script.failure .poll _ = 0
    rw [hscript]
    exact hp _
  have hhas' := hhas.congr (rfl : ((enter .poll).run h₁).2.script = h₁.script) rfl rfl
  refine ⟨((enter .poll).run h₁).2, ?_, hscript, hhas', ?_⟩
  · rw [← hhas'.isReadable_eq, lookAt, run_bind, harrive]
    dsimp only
    rw [probe, run_bind, hcode]
    rfl
  · rw [coming_enter_poll, coming_congr hlooks hactive]

/-- After a packet was handled the watcher is armed if packets wait by then. -/
theorem schedule_handled_run {x : Receiver} {v : Watcher Worker}
    (hp : ∀ n, w.host.script.failure .poll n = 0) (hx : x.Has w.host ⟨v.descriptor⟩ packets)
    (hs : w.host.activeMapping? ⟨v.descriptor⟩ .receive = none →
      v.descriptor < w.host.sockets.size)
    (hr : v.readiness = .readable) : ∃ h,
      (schedule surroundings v .handled).run w =
        ({ v with armed := !(packets ++ (w.host.coming ⟨v.descriptor⟩).headD []).isEmpty },
          { w with host := h }) ∧ Sighted x w.host ⟨v.descriptor⟩ packets h := by
  obtain ⟨h, hlook, hfound⟩ := lookAt_run hp hx hs
  refine ⟨h, ?_, hfound⟩
  rw [schedule, run_bind, hr, show (surroundings.probe v.descriptor .readable).run w = _ from
    onHost_run hlook]
  rfl

/-- Whether a packet is long enough to be a frame. -/
def isLong (kind : FrameKind) (packet : Bytes) : Bool := kind.headerLength ≤ packet.length

theorem answer_ofPacket (kind : FrameKind) (n : Nat) (packet : Bytes) :
    ((Receiver.Turn.ofPacket kind n packet).answer = .ok .handled ∧ isLong kind packet = true) ∨
      ((∃ e, (Receiver.Turn.ofPacket kind n packet).answer = .error (.frame e)) ∧
        isLong kind packet = false) := by
  unfold isLong
  by_cases hl : packet.length < kind.headerLength
  · have hd := Frame.decode_of_lt hl packet.length
    refine .inr ⟨⟨.truncated kind kind.headerLength packet.length, ?_⟩,
      decide_eq_false (Nat.not_le.mpr hl)⟩
    rw [Receiver.Turn.ofPacket, Frame.decodeWhole, hd]
  · have hd := Frame.decode_of_le (Nat.le_of_not_lt hl) packet.length
    refine .inl ⟨?_, decide_eq_true (Nat.le_of_not_lt hl)⟩
    rw [Receiver.Turn.ofPacket, Frame.decodeWhole, hd]

/-- A watcher whose receiver has read a packet is armed if packets wait by then. -/
theorem IsBusy.rearm {x x' : Receiver} {v : Watcher Worker} {coming : List (List Bytes)} {h : Host}
    (hv : IsBusy v x w.host (packet :: packets) coming)
    (hp : ∀ n, w.host.script.failure .poll n = 0)
    (hl : x.Leaves w.host ⟨v.descriptor⟩ packets x' h) : ∃ v' h',
      (schedule surroundings { v with worker := .receiver x' } .handled).run { w with host := h } =
        (v', { w with host := h' }) ∧ h'.script = w.host.script ∧
      IsBusy v' x' h' (packets ++ coming.headD []) coming.tail := by
  obtain ⟨-, hhas, rfl, hreadable, hresume, hflagged, hbroken, -⟩ := hv
  have hscript : h.script = w.host.script := congrArg Prod.fst hl.looks
  have hsize : h.activeMapping? ⟨v.descriptor⟩ .receive = none →
      v.descriptor < h.sockets.size := by
    intro hn
    rw [show h.sockets.size = w.host.sockets.size from congrArg (fun looks => looks.2.2) hl.looks]
    exact hhas.lt_size (hl.active.symm.trans hn)
  obtain ⟨h', hs, hfound⟩ := schedule_handled_run (w := { w with host := h })
    (v := { v with worker := .receiver x' }) (hscript ▸ hp) hl.has hsize hreadable
  refine ⟨_, h', hs, hfound.script.trans hscript, ?_⟩
  rw [← coming_congr hl.looks hl.active]
  exact ⟨rfl, hfound.has, hfound.coming, hreadable, hresume, hflagged, hbroken, rfl⟩

/-- A receiver with packets reads one of them, and is armed if there are more by then. -/
theorem IsBusy.serve_run {x : Receiver} {v : Watcher Worker} {coming : List (List Bytes)}
    (hv : IsBusy v x w.host (packet :: packets) coming) (stats : Stats)
    (hp : ∀ n, w.host.script.failure .poll n = 0) :
    ∃ v' x' h stats', (serve surroundings stats (v, some (.ok ()))).run w =
        (((v', none), stats'), { w with host := h }) ∧
      x'.kind = x.kind ∧ h.script = w.host.script ∧
      IsBusy v' x' h (packets ++ coming.headD []) coming.tail ∧
      stats'.handled = stats.handled + if isLong x.kind packet then 1 else 0 := by
  obtain ⟨x', h', hrun, hleaves⟩ := hv.has.onReady_run
  have hturn : v.worker.onReady.run w.host =
      (((Receiver.Turn.ofPacket x.kind x.received packet).answer, .receiver x'), h') := by
    rw [hv.worker, Worker.onReady, run_bind, hrun]
    rfl
  have hready := onHost_run hturn
  rcases answer_ofPacket x.kind x.received packet with ⟨hans, hlong⟩ | ⟨⟨e, hans⟩, hlong⟩
  · obtain ⟨v', h'', hs, hscript, hbusy⟩ := hv.rearm hp hleaves
    rw [hans] at hready
    refine ⟨v', x', h'', _, serve_run_ok stats hready hs, hleaves.kind, hscript, hbusy, ?_⟩
    rw [hlong]
    rfl
  · obtain ⟨v', h'', hs, hscript, hbusy⟩ := hv.rearm hp (hleaves.report (frameFailed v (.frame e)))
    rw [hans] at hready
    refine ⟨v', x', h'', _, serve_run_error stats hready rfl hs, hleaves.kind, hscript, hbusy, ?_⟩
    rw [hlong]
    rfl

theorem IsBusy.look_run {x : Receiver} {v : Watcher Worker} {coming : List (List Bytes)}
    (hv : IsBusy v x w.host packets coming) : (look surroundings v).run w =
      ((v, if packets.isEmpty then none else some (.ok ())), w) := by
  rw [look_awake hv.resumeAt hv.flagged hv.broken, hv.armed]
  cases packets.isEmpty <;> rfl

/-- A turn reads one packet, and the others are left. -/
theorem Serves.turn {coming : List (List Bytes)} (hs : Serves r w kind (packet :: packets) coming)
    (hw : w.stopped = false) :
    r.isReady surroundings w = true ∧ ∃ r' w',
      (r.turn surroundings).run w = (.next r', w') ∧
        Serves r' w' kind (packets ++ coming.headD []) coming.tail ∧
        r'.stats.handled = r.stats.handled + if isLong kind packet then 1 else 0 := by
  obtain ⟨v, x, hv, rfl, hbusy⟩ := hs.watcher
  have hlook : (look surroundings v).run w = ((v, some (.ok ())), w) := hbusy.look_run
  obtain ⟨v', x', h, stats, hserve, hkind, hscript, hbusy', hhandled⟩ :=
    hbusy.serve_run { r.stats with iterations := r.stats.iterations + 1 } hs.probes
  have hturn := Run.turn_lone_ready hv hw hlook (Run.iterate_lone hserve)
  refine ⟨?_, _, _, hturn, ⟨hscript ▸ hs.probes, v', x', rfl, hkind, hbusy'⟩, hhandled⟩
  rw [Run.isReady, hv, lookAll, run_bind, hlook]
  rfl

/-- Once no packets wait nobody is ready. -/
theorem Serves.not_ready {coming : List (List Bytes)} (hs : Serves r w kind [] coming) :
    r.isReady surroundings w = false := by
  obtain ⟨v, x, hv, -, hbusy⟩ := hs.watcher
  have hlook : (look surroundings v).run w = ((v, none), w) := hbusy.look_run
  rw [Run.isReady, hv, lookAll, run_bind, hlook]
  rfl

/-- After a signal there is one more iteration for each packet that waits, or arrives while others
do, and then nobody is ready. -/
theorem Serves.streak {r₀ : Run Worker} {w₀ : World} {n : Nat} {coming : List (List Bytes)}
    (hs : Serves r w kind packets coming) (h : Streak surroundings n (r₀, w₀) (r, w))
    (hw : IsRaised w₀) :
    ∃ r' w', Streak surroundings (n + (Receiver.stream packets coming).length) (r₀, w₀) (r', w') ∧
      r'.isReady surroundings w' = false ∧ r'.stats.handled =
        r.stats.handled + (Receiver.stream packets coming).countP (isLong kind) := by
  induction packets, coming using Receiver.stream.induct generalizing r w n with
  | case1 coming =>
    rw [Receiver.stream_nil]
    exact ⟨r, w, h, hs.not_ready, rfl⟩
  | case2 coming packet packets ih =>
    have hrunning := (h.unheard surroundings_unheard hw).1.running
    obtain ⟨hready, r₁, w₁, hturn, hs₁, hhandled⟩ := hs.turn hrunning
    obtain ⟨r', w', h', hidle, hcount⟩ := ih hs₁ (h.snoc hready hturn)
    rw [Receiver.stream_cons]
    refine ⟨r', w', ?_, hidle, ?_⟩
    · rwa [List.length_cons, Nat.add_comm (List.length _), ← Nat.add_assoc]
    · rw [hcount, hhandled, List.countP_cons]
      omega

/-! ## What follows from a signal -/

/-- What follows from a signal that arrived before this point of a run. -/
structure Deferred (r : Run Worker) (w : World) : Prop where
  /-- However many iterations follow, the signal is not noticed in them. -/
  unheard : ∀ n r' w', Streak surroundings n (r, w) (r', w') →
    IsRaised w' ∧ r'.stats.iterations = r.stats.iterations + n
  /-- As long as somebody is ready there is another iteration. -/
  goes_on : ∀ n r' w', Streak surroundings n (r, w) (r', w') →
    r'.isReady surroundings w' = true → ∃ c, Streak surroundings (n + 1) (r, w) c
  /-- Once nobody is ready the run ends. -/
  ends : ∀ n r' w', Streak surroundings n (r, w) (r', w') → r'.isReady surroundings w' = false →
    ∀ fuel, n < fuel → ∃ left w'', (Run.loop surroundings fuel r).run w = ((r'.upshot, left), w'')
  /-- There are no more than `n` iterations exactly if nobody is ready after the `n`-th. -/
  le_iff : ∀ n, (∀ m c, Streak surroundings m (r, w) c → m ≤ n) ↔
    ∀ r' w', Streak surroundings n (r, w) (r', w') → r'.isReady surroundings w' = false
  /-- Each packet that waits for a receiver, or arrives while others do, has its iteration, and is
  handled if it is long enough. -/
  backlog : ∀ kind packets coming, Serves r w kind packets coming → ∃ r' w',
    Streak surroundings (Receiver.stream packets coming).length (r, w) (r', w') ∧
      r'.isReady surroundings w' = false ∧ r'.stats.handled =
        r.stats.handled + (Receiver.stream packets coming).countP (isLong kind)

/-- A signal is noticed as soon as nobody is ready, and not before. -/
theorem signal_deferred (hw : IsRaised w) (r : Run Worker) : Deferred r w where
  unheard _ _ _ h := h.unheard surroundings_unheard hw
  goes_on _ _ _ h := h.exists_succ surroundings_unheard hw
  ends _ _ _ h hr _ := h.loop_run surroundings_unheard hw hr
  le_iff := Streak.le_iff surroundings_unheard hw
  backlog kind packets coming hs := by
    have h := hs.streak .nil hw
    rwa [Nat.zero_add] at h

/-- A signal has arrived. Two packets wait for a receiver that is armed, and one more arrives while
it reads them. -/
theorem signal_deferred_three : ∃ r w packets coming, packets.length = 2 ∧
    (Receiver.stream packets coming).length = 3 ∧ IsRaised w ∧
    Serves r w .ieee8023 packets coming ∧ Deferred r w := by
  let packet : Bytes := List.replicate 15 0xFF
  let worker : Worker := .receiver { channel := .socket ⟨⟨0⟩⟩, kind := .ieee8023 }
  let r : Run Worker := { watchers := [{ watcherOf worker with armed := true }] }
  let w : World := {
    host := {
      script := { arrivals := [[], [packet]] }
      sockets := #[{ queue := [packet, packet] }]
      signal := some .terminate }
    schedule := .signals }
  have hw : IsRaised w := ⟨rfl, rfl, rfl⟩
  have hnone : w.host.activeMapping? ⟨0⟩ .receive = none := by simp [activeMapping?, w]
  have hcoming : w.host.coming ⟨0⟩ = [[], [packet]] := by
    rw [coming, hnone]
    rfl
  have hstream : Receiver.stream [packet, packet] [[], [packet]] = [packet, packet, packet] := by
    simp [Receiver.stream]
  have hserves : Serves r w .ieee8023 [packet, packet] [[], [packet]] :=
    ⟨fun _ => rfl, _, _, rfl, rfl, rfl,
      .socket rfl rfl List.length_replicate ⟨fun _ => Int.le_refl 0, rfl⟩ hnone, hcoming,
      rfl, rfl, rfl, rfl, rfl⟩
  exact ⟨r, w, _, _, rfl, congrArg List.length hstream, hw, hserves, signal_deferred hw r⟩

/-! ## A session with four packets -/

/-- What the event loop of a session can come to. -/
inductive Reaches (config : SessionConfig) (resolver : Resolver) (w₀ : World) :
    Run Worker → World → Prop where
  | start {link : LinkSocket} {worker : Worker} {w w' : World}
      (hs : (setUp config resolver (.new config.link)).run w₀ = ((.ok (), link), w))
      (he : (enlist config link).run w = (.ok worker, w')) :
    Reaches config resolver w₀ { watchers := [watcherOf worker] } w'
  | turn {r r' : Run Worker} {w w' : World} (h : Reaches config resolver w₀ r w)
      (ht : (r.turn surroundings).run w = (.next r', w')) : Reaches config resolver w₀ r' w'

/-- The event loop after a turn, if it does not end. -/
def next? (c : Run Worker × World) : Option (Run Worker × World) :=
  match (c.1.turn surroundings).run c.2 with
  | (.next r, w) => some (r, w)
  | (.ended _ _, _) => none

/-- Whether so many iterations follow. -/
def isStreak : Nat → Run Worker × World → Bool
  | 0, _ => true
  | n + 1, c => c.1.isReady surroundings c.2 && (next? c).any (isStreak n)

/-- Whether a signal arrives in an iteration, and so many more follow. -/
def isLate (n : Nat) (c : Run Worker × World) : Bool :=
  c.2.host.signal.isNone && (next? c).any fun c' =>
    c'.2.schedule = .signals && !c'.2.stopped && c'.2.host.signal.isSome &&
      c'.1.stats.iterations = c.1.stats.iterations + 1 && isStreak n c'

variable {config : SessionConfig} {resolver : Resolver} {w₀ : World} {c c' : Run Worker × World}

theorem turn_of_next? (h : next? c = some c') :
    (c.1.turn surroundings).run c.2 = (.next c'.1, c'.2) := by
  unfold next? at h
  generalize (c.1.turn surroundings).run c.2 = turned at h
  obtain ⟨_ | _, w⟩ := turned
  · cases h
    rfl
  · cases h

theorem reaches_of_start? (h : start? config resolver w₀ = some c) :
    Reaches config resolver w₀ c.1 c.2 := by
  obtain ⟨link, w, worker, hs, he, hr⟩ := enlist_of_start? h
  rw [hr]
  exact .start hs he

theorem streak_of_isStreak {n m : Nat} {c₀ : Run Worker × World}
    (h : Streak surroundings m c₀ c) (hn : isStreak n c = true) :
    ∃ c', Streak surroundings (m + n) c₀ c' := by
  induction n generalizing m c with
  | zero => exact ⟨c, h⟩
  | succ n ih =>
    rw [isStreak, Bool.and_eq_true, Option.any_eq_true] at hn
    obtain ⟨hready, c₁, hnext, hrest⟩ := hn
    obtain ⟨c', h'⟩ := ih (h.snoc hready (turn_of_next? hnext)) hrest
    exact ⟨c', by rwa [Nat.add_comm n, ← Nat.add_assoc]⟩

/-- A receiver of frames with a header of 14 bytes. -/
def fourConfig : SessionConfig where
  role := .receiver
  interface := "eth0"
  kind := .ieee8023
  linkSap := 0x88B5
  txDelay := 0
  ringFrames := none
  payloadLength := 10

/-- Four frames arrive, and a signal while the first of them is received. -/
def fourScript : Script where
  interfaces := [⟨"eth0", 3, .zero⟩]
  inbound := List.replicate 4 (.whole (List.replicate 15 0xFF))
  raise := some (.receive, 0, .terminate)

/-- The signal arrives in an iteration, and three more follow. -/
theorem signal_late_four : ∃ r w r' w' c,
    Reaches fourConfig .system (.begin (ofScript fourScript) .signals) r w ∧
      (r.turn surroundings).run w = (.next r', w') ∧ w.host.signal = none ∧ IsRaised w' ∧
        r'.stats.iterations = r.stats.iterations + 1 ∧ Streak surroundings 3 (r', w') c := by
  have hlate : ((start? fourConfig .system (.begin (ofScript fourScript) .signals)).any fun c =>
      (next? c).any (isLate 3)) = true := by decide +kernel
  obtain ⟨c, hc, hnext⟩ := (Option.any_eq_true ..).mp hlate
  obtain ⟨c₁, h₁, hlate⟩ := (Option.any_eq_true ..).mp hnext
  have hreaches := (reaches_of_start? hc).turn (turn_of_next? h₁)
  simp only [isLate, Bool.and_eq_true, Option.any_eq_true, Option.isNone_iff_eq_none,
    decide_eq_true_eq, Bool.not_eq_true'] at hlate
  obtain ⟨hnone, c₂, h₂, ⟨⟨⟨hschedule, hstopped⟩, hsignal⟩, hcount⟩, hstreak⟩ := hlate
  have hnil : Streak surroundings 0 c₂ c₂ := .nil
  obtain ⟨c', h'⟩ := streak_of_isStreak hnil hstreak
  exact ⟨_, _, _, _, c', hreaches, turn_of_next? h₂, hnone, ⟨hschedule, hstopped, hsignal⟩, hcount,
    h'⟩

end PacketLink.Session
