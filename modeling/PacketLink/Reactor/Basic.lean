import PacketLink.Link.Error
import PacketLink.Log
import PacketLink.Reactor.Dispatch

/-!
# The event loop

The loop calls whoever has something to do. Each watcher waits for readiness of one descriptor.
New readiness shows as an event, which is collected once; so after a turn that moved a frame the
descriptor is probed, and the watcher stays armed if there is more to do. A pause keeps a watcher
from being called before its end, when the descriptor is probed again. Collecting may also fail:
then there will be no events of this descriptor.

* `Watcher`: a descriptor with its worker and what is known of its readiness.
* `Platform`: what the loop needs of its surroundings: a clock, events, probes, the workers.
* `look`: whether a watcher is ready. `serve`: one turn of a ready watcher.
* `Run.turn`: stops if asked to or if nobody is left, otherwise serves everybody who is ready, once
  and in order, or waits if nobody is.
* `Run.loop`: turns until the run ends.

A watcher whose descriptor fails, or whose worker reports that its resources are lost, is removed.
The run fails when it has removed the last one.
-/

namespace PacketLink.Reactor

/-- A descriptor that is watched, with its worker. -/
structure Watcher (β : Type) where
  /-- The name in the log. -/
  label : String
  descriptor : Nat
  readiness : Readiness
  worker : β
  /-- Whether the last probe found more to do. -/
  armed : Bool := false
  /-- Whether an event was collected that nobody has acted on. -/
  flagged : Bool := false
  /-- Why there will be no event of the descriptor any more. -/
  broken : Option Errno := none
  /-- The end of a pause. -/
  resumeAt : Option Nat := none

/-- Why a waiting run is interrupted. -/
inductive Interruption where
  /-- It is asked to stop. -/
  | stop
  /-- It is given up. -/
  | abandon
deriving DecidableEq, Repr

/-- The surroundings of the loop. -/
structure Platform (σ β : Type) where
  /-- The time in milliseconds. -/
  now : σ → Nat
  /-- Whether the run is asked to stop. -/
  stopRequested : σ → Bool
  /-- Probes whether a descriptor is ready. -/
  probe : Nat → Readiness → StateM σ (Except Errno Bool)
  /-- One turn of a worker. -/
  onReady : β → StateM σ (Except LinkError Dispatch × β)
  /-- What follows a turn that failed for one frame only. -/
  afterError : β → Dispatch
  /-- Writes to the log. -/
  report : Log.Entry → StateM σ Unit
  /-- What interrupts a run that has to wait now. -/
  interruption : StateM σ (Option Interruption)
  /-- Takes the event of a descriptor, if there is one and the descriptor is still ready. -/
  collect : Nat → Readiness → StateM σ (Except Errno Bool)
  /-- Lets time pass until the given end of a pause or until something else is due. -/
  sleep : Option Nat → StateM σ Unit

/-- A computation that leaves alone what is kept beside its state. -/
def beside {σ γ α : Type} (act : StateM σ α) : StateM (σ × γ) α := fun s =>
  ((act.run s.1).1, ((act.run s.1).2, s.2))

/-- The counters of a run. -/
structure Stats where
  /-- Turns in which somebody was ready. -/
  iterations : Nat := 0
  /-- Calls of workers. -/
  dispatched : Nat := 0
  handled : Nat := 0
  idle : Nat := 0
  paused : Nat := 0
  /-- Calls that failed for one frame only. -/
  frameErrors : Nat := 0
  /-- Watchers that were removed. -/
  deregistered : Nat := 0
deriving DecidableEq, Repr

/-- The counters after an answer of a worker. -/
def Stats.record (s : Stats) : Dispatch → Stats
  | .handled => { s with handled := s.handled + 1 }
  | .idle => { s with idle := s.idle + 1 }
  | .pause _ => { s with paused := s.paused + 1 }

/-- The log's name of a watcher. -/
def Watcher.labelField (w : Watcher β) : String × String := Log.text "watcher" w.label

/-- The log's place for a descriptor, whose number is nobody's business. -/
def descriptorField : String × String := ("fd", "N")

variable {σ β : Type}

/-! ## Registering -/

/-- The operation in which the event queue may refuse a descriptor. -/
def registration : String := "reactor registration"

/-- Adds a watcher, unless its descriptor is watched already. -/
def register (watchers : List (Watcher β)) (w : Watcher β) :
    Except LinkError (List (Watcher β)) :=
  if watchers.any fun other => other.descriptor = w.descriptor then
    .error (.configuration "descriptor N is already watched")
  else .ok (watchers ++ [w])

/-! ## Looking and serving -/

/-- A watcher with what a look at it found: nothing to do, ready, or failed. -/
abbrev Looked (β : Type) := Watcher β × Option (Except Errno Unit)

/-- Whether a watcher that does not pause is ready. Its collected event is used up. -/
def lookAwake (w : Watcher β) : Looked β :=
  if w.armed then (w, some (.ok ()))
  else
    match w.broken with
    | some e => (w, some (.error e))
    | none =>
      if w.flagged then ({ w with flagged := false }, some (.ok ()))
      else (w, none)

/-- Whether a watcher is ready. At the end of a pause the descriptor is probed. -/
def look (p : Platform σ β) (w : Watcher β) : StateM σ (Looked β) := do
  match w.resumeAt with
  | none => pure (lookAwake w)
  | some t =>
    if p.now (← get) < t then pure (w, none)
    else
      let w := { w with resumeAt := none }
      match ← p.probe w.descriptor w.readiness with
      | .ok level => pure (lookAwake { w with armed := level })
      | .error e => pure (w, some (.error e))

/-- Looks at all watchers in order. -/
def lookAll (p : Platform σ β) : List (Watcher β) → StateM σ (List (Looked β))
  | [] => pure []
  | w :: rest => do
    let first ← look p w
    let others ← lookAll p rest
    pure (first :: others)

/-- Puts an answer of a worker into effect. -/
def schedule (p : Platform σ β) (w : Watcher β) : Dispatch → StateM σ (Watcher β)
  | .idle => pure { w with armed := false }
  | .pause milliseconds => do
    let now := p.now (← get)
    pure { w with armed := false, resumeAt := some (now + milliseconds) }
  | .handled => do
    match ← p.probe w.descriptor w.readiness with
    | .ok level => pure { w with armed := level }
    | .error e =>
      p.report (Log.warn "level probe failed" [w.labelField, ("error", e.message)])
      pure { w with armed := true }

/-- A watcher after its turn, with the failure that removes it, if there is one. -/
abbrev Served (β : Type) := Watcher β × Option LinkError

/-- One turn of a watcher that was looked at. -/
def serve (p : Platform σ β) (stats : Stats) : Looked β → StateM σ (Served β × Stats)
  | (w, none) => pure ((w, none), stats)
  | (w, some (.error e)) => do
    p.report (Log.error "descriptor failed"
      [w.labelField, descriptorField, ("error", e.message)])
    pure ((w, some (.resource "readiness wait" e)), stats)
  | (w, some (.ok ())) => do
    let stats := { stats with dispatched := stats.dispatched + 1 }
    let (answer, worker) ← p.onReady w.worker
    let w := { w with worker }
    match answer with
    | .ok dispatch =>
      let w ← schedule p w dispatch
      pure ((w, none), stats.record dispatch)
    | .error e =>
      if e.isResource then
        p.report (Log.error "watcher unusable"
          [w.labelField, descriptorField, ("error", e.message)])
        pure ((w, some e), stats)
      else
        p.report (Log.warn "frame failed" [w.labelField, ("error", e.message)])
        let w ← schedule p w (p.afterError w.worker)
        pure ((w, none), { stats with frameErrors := stats.frameErrors + 1 })

/-- Serves all watchers in order. -/
def serveAll (p : Platform σ β) :
    Stats → List (Looked β) → StateM σ (List (Served β) × Stats)
  | stats, [] => pure ([], stats)
  | stats, w :: rest => do
    let (first, stats) ← serve p stats w
    let (others, stats) ← serveAll p stats rest
    pure (first :: others, stats)

/-- The watchers that stay. -/
def survivors (served : List (Served β)) : List (Watcher β) :=
  served.filterMap fun (w, failure) => if failure.isSome then none else some w

/-- Reports the watchers that are removed, the last one first. -/
def reportRemoved (p : Platform σ β) : List (Served β) → StateM σ Unit
  | [] => pure ()
  | (w, failure) :: rest => do
    reportRemoved p rest
    if failure.isSome then
      p.report (Log.warn "deregistered watcher" [w.labelField, descriptorField])

/-- The number of watchers that are removed. -/
def removedCount (served : List (Served β)) : Nat :=
  (served.filter fun s => s.2.isSome).length

/-- The failure of the first watcher that is removed. -/
def firstFailure (served : List (Served β)) : Option LinkError := served.findSome? Prod.snd

/-! ## Waiting -/

/-- Marks a watcher with what collecting its event has come to. -/
def Watcher.collected (w : Watcher β) : Except Errno Bool → Watcher β
  | .ok found => { w with flagged := w.flagged || found }
  | .error e => { w with broken := some e }

/-- Collects the events of all watchers and marks the watchers. -/
def collectAll (p : Platform σ β) : List (Watcher β) → StateM σ (List (Watcher β))
  | [] => pure []
  | w :: rest => do
    let outcome ← p.collect w.descriptor w.readiness
    let others ← collectAll p rest
    pure (w.collected outcome :: others)

/-- Whether a watcher has something to act on now: an event, or that there will be none. -/
def Watcher.isRoused (w : Watcher β) : Bool :=
  (w.flagged || w.broken.isSome) && w.resumeAt.isNone

/-- The end of the first pause to end. -/
def earliestResume (watchers : List (Watcher β)) : Option Nat :=
  (watchers.filterMap (·.resumeAt)).min?

/-! ## Running -/

/-- A run in progress. -/
structure Run (β : Type) where
  watchers : List (Watcher β)
  stats : Stats := {}
  /-- The failure that removed the watcher that was removed last. -/
  lastFailure : Option LinkError := none

/-- How a run ends. -/
inductive Ending where
  /-- It stopped when asked to, or had nobody to serve. -/
  | finished (stats : Stats)
  /-- Its last watcher was removed. -/
  | failed (cause : LinkError)
  /-- It was given up while it waited. -/
  | abandoned

/-- What a turn leads to. -/
inductive Turn (β : Type) where
  | next (run : Run β)
  | ended (ending : Ending) (watchers : List (Watcher β))

namespace Run

/-- Serves everybody who is ready, once and in order, and removes those that failed. -/
def iterate (p : Platform σ β) (r : Run β) (looked : List (Looked β)) : StateM σ (Run β) := do
  let stats := { r.stats with iterations := r.stats.iterations + 1 }
  let (served, stats) ← serveAll p stats looked
  reportRemoved p served
  pure {
    watchers := survivors served
    stats := { stats with deregistered := stats.deregistered + removedCount served }
    lastFailure := (firstFailure served).or r.lastFailure }

/-- Waits: nobody is ready. Time passes only if no event can be acted on. -/
def wait (p : Platform σ β) (r : Run β) : StateM σ (Turn β) := do
  match ← p.interruption with
  | some .stop => pure (.ended (.finished r.stats) r.watchers)
  | some .abandon => pure (.ended .abandoned r.watchers)
  | none =>
    let watchers ← collectAll p r.watchers
    if !(watchers.any Watcher.isRoused) then p.sleep (earliestResume watchers)
    pure (.next { r with watchers })

/-- One turn. -/
def turn (p : Platform σ β) (r : Run β) : StateM σ (Turn β) := do
  if p.stopRequested (← get) then pure (.ended (.finished r.stats) r.watchers)
  else if r.watchers.isEmpty then
    pure (.ended
      (match r.lastFailure with
        | some e => .failed e
        | none => .finished r.stats)
      [])
  else
    let looked ← lookAll p r.watchers
    let r := { r with watchers := looked.map Prod.fst }
    if looked.any fun l => l.2.isSome then pure (.next (← r.iterate p looked))
    else r.wait p

/-- Turns until the run ends. A run that takes more than `fuel` turns is given up. -/
def loop (p : Platform σ β) : Nat → Run β → StateM σ (Ending × List (Watcher β))
  | 0, r => pure (.abandoned, r.watchers)
  | fuel + 1, r => do
    match ← r.turn p with
    | .ended ending watchers => pure (ending, watchers)
    | .next r => loop p fuel r

end Run

/-- Runs the loop over these watchers. -/
def run (p : Platform σ β) (fuel : Nat) (watchers : List (Watcher β)) :
    StateM σ (Ending × List (Watcher β)) :=
  Run.loop p fuel { watchers }

end PacketLink.Reactor
