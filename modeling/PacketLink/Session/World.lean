import PacketLink.Reactor.Basic
import PacketLink.Traffic.Worker

/-!
# The surroundings of a session

* `Schedule`: when a session is to end.
* `World`: a host with a clock, a schedule, and the event of the one descriptor that is watched.
  The event queue may refuse to watch it.
* `surroundings`: what the event loop sees of the world. Signals are noticed while the loop waits.
-/

namespace PacketLink.Session

/-- When a session is to end. -/
inductive Schedule where
  /-- It is asked to stop before it begins. -/
  | stopped
  /-- It is asked to stop at a time in milliseconds. -/
  | stopAt (time : Nat)
  /-- It is given up at a time in milliseconds. -/
  | abandonAt (time : Nat)
  /-- It is asked to stop by a signal. -/
  | signals
deriving DecidableEq, Repr

/-- The time at which the schedule has something to do. -/
def Schedule.time? : Schedule → Option Nat
  | .stopAt t | .abandonAt t => some t
  | .stopped | .signals => none

/-- A host with a clock and a schedule. -/
structure World where
  host : Host
  schedule : Schedule
  /-- The time in milliseconds. -/
  now : Nat := 0
  /-- Whether the session is asked to stop. -/
  stopped : Bool := false
  /-- Whether the watched descriptor has an event to collect. -/
  event : Bool := false
  /-- Why the event queue refuses to watch a descriptor, if it does. -/
  refusal : Option Errno := none

/-- The world at the beginning of a session. -/
def World.begin (host : Host) (schedule : Schedule) : World where
  host
  schedule
  stopped := schedule = .stopped

/-- Runs a computation on the host of the world. -/
def onHost (act : Sys α) : StateM World α := fun w =>
  let (a, host) := act w.host
  (a, { w with host })

/-- Whether a socket is ready. -/
def level (h : Host) (descriptor : Nat) : Readiness → Bool
  | .readable => h.isReadable ⟨descriptor⟩
  | .writable => h.isWritable ⟨descriptor⟩

/-- Looks whether a socket is ready. The frames that arrive meanwhile are there. -/
def lookAt (descriptor : Nat) (readiness : Readiness) : Sys (Except Errno Bool) := do
  match readiness with
  | .readable => Host.arrive ⟨descriptor⟩
  | .writable => pure ()
  Host.probe fun h => level h descriptor readiness

/-- The report of a signal. -/
def signalReport : Signal → Log.Entry
  | .interrupt => Log.info "received Ctrl-C, stopping" []
  | .terminate => Log.info "received SIGTERM, stopping" []

/-- What interrupts a session that has to wait. -/
def interruption : StateM World (Option Reactor.Interruption) := do
  let w ← get
  match w.schedule with
  | .stopped => pure none
  | .stopAt t =>
    if t ≤ w.now then
      set { w with stopped := true }
      pure (some .stop)
    else pure none
  | .abandonAt t => pure (if t ≤ w.now then some .abandon else none)
  | .signals =>
    match w.host.signal with
    | none => pure none
    | some signal =>
      onHost (Host.report (signalReport signal))
      modify fun w => { w with stopped := true }
      pure (some .stop)

/-- The earlier of two times, of which each may be missing. -/
def earlier : Option Nat → Option Nat → Option Nat
  | some a, some b => some (min a b)
  | a, none => a
  | none, b => b

/-- What the event loop sees of the world. -/
def surroundings : Reactor.Platform World Worker where
  now w := w.now
  stopRequested w := w.stopped
  probe descriptor readiness := onHost (lookAt descriptor readiness)
  onReady worker := onHost worker.onReady
  afterError worker := worker.afterError
  report e := onHost (Host.report e)
  interruption := interruption
  collect descriptor readiness := fun w =>
    (.ok (w.event && level w.host descriptor readiness), { w with event := false })
  sleep resume := modify fun w =>
    { w with now := (earlier resume w.schedule.time?).getD w.now }

end PacketLink.Session
