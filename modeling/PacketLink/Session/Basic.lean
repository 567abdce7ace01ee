import PacketLink.Config.Session
import PacketLink.Session.World

/-!
# Sessions

A session takes one link through its life and gives it back whatever happens.

* `Session.drive`: opens, binds and starts the link, runs the event loop over its worker, and stops
  the link.
* `Session.run`: drives the link and closes it. A failure of the session comes before a failure of
  closing, which then is only logged.
* `Failure`: why a session failed: the step, and the cause.
* `panicking`: the event loop of a worker that panics. That unwinds the session, like giving it up.
-/

namespace PacketLink.Session

/-- Why a session failed. -/
structure Failure where
  /-- The step that failed, if the cause does not say enough. -/
  step : Option String
  cause : LinkError

/-- The texts of a failure from the step down to the error number. A frame error has no text
beside that of the link error that passes it on. -/
def Failure.chain (f : Failure) : List String :=
  f.step.toList ++ [f.cause.message] ++ f.cause.source.toList.map Errno.message

/-- The failure as one text. -/
def Failure.message (f : Failure) : String := ": ".intercalate f.chain

/-- The failure as seen from outside. -/
def Failure.outer (f : Failure) : String := f.step.getD f.cause.message

/-- How a session ends. -/
inductive Ending where
  | finished (stats : Reactor.Stats)
  | failed (cause : Failure)
  /-- It was given up. -/
  | abandoned
  /-- Its worker panicked. -/
  | panicked

/-- The report of a finished session. -/
def finishedReport (s : Reactor.Stats) : Log.Entry :=
  Log.info "session finished"
    [Log.number "iterations" s.iterations, Log.number "dispatched" s.dispatched,
      Log.number "handled" s.handled, Log.number "frame_errors" s.frameErrors,
      Log.number "deregistered" s.deregistered]

/-- The number of slots of a ring that the kernel has handed over. -/
def handedOver (m : SlotMemory) : Nat :=
  (List.range m.count).countP fun i => SlotMemory.isUser (m.status i)

/-- The number of frames that wait for a worker. -/
def waiting (h : Host) : Worker → Nat
  | .receiver x =>
    match x.channel with
    | .socket s => (h.socketOf s.id).queue.length
    | .ring r => handedOver (r.memory h)
  | .transmitter _ => 0

/-- The socket that a worker's channel belongs to. -/
def socketOf : Channel → Option PacketSocket
  | .socket s => some s
  | .ring r => r.socket

/-- The watcher of a worker. -/
def watcherOf (worker : Worker) : Reactor.Watcher Worker where
  label := worker.label
  descriptor := ((socketOf worker.channel).map fun s => s.id.number).getD 0
  readiness := worker.readiness
  worker

/-- Registers a watcher: if its descriptor is ready there is an event. -/
def watch (w : Reactor.Watcher Worker) : StateM World Unit :=
  modify fun world => { world with event := level world.host w.descriptor w.readiness }

/-- One step of the life of a link. -/
def step (name : String) (act : Sys (Except LinkError Unit × LinkSocket)) :
    StateM World (Except Failure Unit × LinkSocket) := do
  let (outcome, link) ← onHost act
  pure (outcome.mapError fun e => ⟨some name, e⟩, link)

/-- Opens, binds and starts a link. -/
def setUp (config : SessionConfig) (resolver : Resolver) (link : LinkSocket) :
    StateM World (Except Failure Unit × LinkSocket) := do
  let opening := "Failed to open link socket on " ++ config.interface
  match ← step opening (link.open resolver) with
  | (.error f, link) => pure (.error f, link)
  | (.ok (), link) =>
    match ← step "Failed to bind link socket" link.bind with
    | (.error f, link) => pure (.error f, link)
    | (.ok (), link) => step "Failed to start link socket" link.start

/-- The link with what its worker left. -/
def withWorkers (link : LinkSocket) (left : List (Reactor.Watcher Worker)) : LinkSocket :=
  left.foldl (fun link w => link.putBack w.worker) link

/-- Makes the worker of a running link, and registers its watcher. -/
def enlist (config : SessionConfig) (link : LinkSocket) :
    StateM World (Except LinkError Worker) := do
  match link.worker? config.traffic with
  | .error e => pure (.error e)
  | .ok worker =>
    match (← get).refusal with
    | some cause => pure (.error (.resource Reactor.registration cause))
    | none =>
      watch (watcherOf worker)
      pure (.ok worker)

/-- The surroundings of a worker that panics, with a mark that it was called. Nothing happens from
then on, and the loop is left before its next turn. -/
def panicking : Reactor.Platform (World × Bool) Worker where
  now w := surroundings.now w.1
  stopRequested w := w.2 || surroundings.stopRequested w.1
  probe descriptor readiness := Reactor.beside (surroundings.probe descriptor readiness)
  onReady worker := fun w => ((.ok .idle, worker), (w.1, true))
  afterError := surroundings.afterError
  report e := Reactor.beside (surroundings.report e)
  interruption := Reactor.beside surroundings.interruption
  collect descriptor readiness := Reactor.beside (surroundings.collect descriptor readiness)
  sleep resume := Reactor.beside (surroundings.sleep resume)

/-- Runs the event loop over a worker that panics as soon as it is called. If it is, the loop has no
ending. -/
def runPanicking (turns : Nat) (worker : Worker) :
    StateM World (Option Reactor.Ending × List (Reactor.Watcher Worker)) := fun w =>
  let ((ending, left), (w, called)) :=
    (Reactor.run panicking turns [watcherOf worker]).run (w, false)
  ((if called then none else some ending, left), w)

/-- Runs the event loop over a worker whose watcher is registered. -/
def runWorker (turns : Nat) (worker : Worker) :
    StateM World (Option Reactor.Ending × List (Reactor.Watcher Worker)) := do
  if worker.panics then runPanicking turns worker
  else
    let (ending, left) ← Reactor.run surroundings turns [watcherOf worker]
    pure (some ending, left)

/-- Stops a link whose event loop has come to its end. -/
def conclude (link : LinkSocket) (ending : Option Reactor.Ending) :
    StateM World (Ending × LinkSocket) := do
  match ending with
  | none => pure (.panicked, link)
  | some .abandoned => pure (.abandoned, link)
  | some (.failed e) => pure (.failed ⟨some "Reactor failed", e⟩, link)
  | some (.finished stats) =>
    match ← step "Failed to stop link socket" link.stop with
    | (.error f, link) => pure (.failed f, link)
    | (.ok (), link) =>
      onHost (Host.report (finishedReport stats))
      pure (.finished stats, link)

/-- Runs the event loop over the worker of a running link, and stops the link. -/
def work (turns : Nat) (config : SessionConfig) (link : LinkSocket) :
    StateM World (Ending × LinkSocket) := do
  match ← enlist config link with
  | .error e => pure (.failed ⟨some "Failed to register link socket", e⟩, link)
  | .ok worker =>
    let (ending, left) ← runWorker turns worker
    conclude (withWorkers link left) ending

/-- Takes a link through its life, except for closing it. -/
def drive (turns : Nat) (config : SessionConfig) (resolver : Resolver) (link : LinkSocket) :
    StateM World (Ending × LinkSocket) := do
  match ← setUp config resolver link with
  | (.error f, link) => pure (.failed f, link)
  | (.ok (), link) => work turns config link

/-- Closes the link of a session that ended by itself. -/
def tearDown (ending : Ending) (link : LinkSocket) : StateM World Ending := do
  let (closed, _) ← onHost link.close
  onHost (Host.report (Log.info "link socket closed" []))
  match ending, closed with
  | ending, .ok () => pure ending
  | .failed f, .error e =>
    onHost (Host.report
      (Log.error "teardown after failed session also failed" [("error", e.message)]))
    pure (.failed f)
  | _, .error e => pure (.failed ⟨some "Failed to close link socket", e⟩)

/-- Gives the link of a session back. One that was given up loses its link, which then closes
itself, and so does one that panicked, where a panic unwinds. -/
def giveBack (ending : Ending) (link : LinkSocket) : StateM World Ending := do
  match ending with
  | .abandoned =>
    onHost link.discard
    pure .abandoned
  | .panicked =>
    onHost link.discard
    pure .panicked
  | ending => tearDown ending link

/-- Runs a session. If its event loop takes more than so many turns it is given up. -/
def run (turns : Nat) (config : SessionConfig) (resolver : Resolver) : StateM World Ending := do
  let (ending, link) ← drive turns config resolver (.new config.link)
  giveBack ending link

end PacketLink.Session
