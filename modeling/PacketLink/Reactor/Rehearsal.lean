import PacketLink.Host.Calls
import PacketLink.Reactor.Basic

/-!
# Rehearsals of the event loop

The loop with workers that follow a script, on descriptors at which datagrams arrive.

* `Actor`: a worker that reads, sends and answers as its script says. After the script it reads
  one datagram a turn.
* `Stage`: the descriptors with the datagrams that wait, the clock, and the calls made so far.
* `Casting`: what is to be watched; `Stage.cast` registers it or tells why not.
* `Stage.perform`: one run of the loop up to a limit of time.
-/

namespace PacketLink.Reactor

/-- One turn in a script. -/
structure Step where
  /-- How many datagrams are read at most. -/
  take : Nat
  /-- The descriptors to which a datagram is sent each. -/
  feed : List Nat
  /-- Whether the run is asked to stop. -/
  stop : Bool
  result : Except LinkError Dispatch

/-- A worker that follows a script. -/
structure Actor where
  /-- The descriptor that it reads from. -/
  place : Nat
  label : String
  script : List Step
  afterError : Dispatch

/-- A call of an actor. -/
structure CallNote where
  /-- Milliseconds since the start of the run. -/
  time : Nat
  label : String
  /-- The number of datagrams read. -/
  taken : Nat
  /-- What it answered; nothing for a failure. -/
  answer : Option Dispatch

/-- The surroundings of a rehearsal. -/
structure Stage where
  host : Host
  now : Nat := 0
  /-- When the present run began. -/
  start : Nat := 0
  /-- When the present run is given up. -/
  limit : Nat := 0
  /-- Whether the present run is asked to stop. -/
  stopped : Bool := false
  /-- Whether asking the present run to stop has an effect. -/
  stoppable : Bool := true
  /-- The number of datagrams that wait at each descriptor. -/
  queues : Array Nat
  /-- What each descriptor is watched for. -/
  watched : Array Readiness
  /-- Whether there is an event of each descriptor to collect. -/
  events : Array Bool
  /-- The calls of the present run, the latest first. -/
  calls : List CallNote := []

namespace Stage

/-- Whether a descriptor is ready. -/
def level (s : Stage) (place : Nat) : Readiness → Bool
  | .readable => 0 < s.queues.getD place 0
  | .writable => true

/-- A datagram arrives at a descriptor. -/
def feed (s : Stage) (place : Nat) : Stage :=
  { s with
    queues := s.queues.modify place (· + 1)
    events := s.events.modify place fun event =>
      event || s.watched.getD place .readable = .readable }

/-- Datagrams are read from a descriptor, as many as wanted if there are as many. -/
def read (s : Stage) (place wanted : Nat) : Nat × Stage :=
  let taken := min wanted (s.queues.getD place 0)
  (taken, { s with queues := s.queues.modify place (· - taken) })

/-- Asks the present run to stop. -/
def requestStop (s : Stage) : Stage := if s.stoppable then { s with stopped := true } else s

/-- Notes a call. -/
def note (s : Stage) (actor : Actor) (taken : Nat) (result : Except LinkError Dispatch) : Stage :=
  { s with calls := ⟨s.now - s.start, actor.label, taken, result.toOption⟩ :: s.calls }

end Stage

/-- One turn of an actor. -/
def Actor.onReady (a : Actor) : StateM Stage (Except LinkError Dispatch × Actor) := fun s =>
  match a.script with
  | step :: rest =>
    let (taken, s) := s.read a.place step.take
    let s := step.feed.foldl Stage.feed s
    let s := if step.stop then s.requestStop else s
    ((step.result, { a with script := rest }), s.note a taken step.result)
  | [] =>
    let (taken, s) := s.read a.place 1
    let answer : Dispatch := if 0 < taken then .handled else .idle
    ((.ok answer, a), s.note a taken (.ok answer))

/-- Runs a computation on the host of the stage. -/
def onHost (act : Sys α) : StateM Stage α := fun s =>
  let (a, host) := act s.host
  (a, { s with host })

/-- The surroundings of the loop on a stage. -/
def rehearsal : Platform Stage Actor where
  now s := s.now
  stopRequested s := s.stopped
  probe place readiness := fun s =>
    onHost (Host.probe fun _ => s.level place readiness) s
  onReady := Actor.onReady
  afterError a := a.afterError
  report e := onHost (Host.report e)
  interruption := do
    let s ← get
    pure (if s.limit ≤ s.now then some .abandon else none)
  collect place readiness := fun s =>
    (.ok (s.events.getD place false && s.level place readiness),
      { s with events := s.events.setIfInBounds place false })
  sleep resume := modify fun s => { s with now := min s.limit (resume.getD s.limit) }

/-! ## Casting -/

/-- What is to be watched. -/
structure Casting where
  readiness : Readiness
  /-- The number of datagrams that wait from the start. -/
  queued : Nat
  /-- The descriptor of another casting to be watched in place of an own one. -/
  sameAs : Option Nat
  /-- Whether the watcher is made apart from the others, so that only the loop notices a
  descriptor that is watched already. -/
  apart : Bool
  /-- Whether the descriptor is that of a file, for which there are no events. -/
  file : Bool
  script : List Step
  afterError : Dispatch

/-- The stage for these castings before anything is registered. -/
def Stage.set (host : Host) (castings : List Casting) : Stage where
  host
  queues := (castings.map (·.queued)).toArray
  watched := (castings.map (·.readiness)).toArray
  events := (castings.map fun _ => false).toArray

/-- The descriptor that a casting watches. -/
def descriptorOf (castings : List Casting) (i : Nat) : Nat :=
  match castings[i]? with
  | some c => c.sameAs.getD i
  | none => i

/-- Registers one casting. -/
def castOne (castings : List Casting) (watchers : List (Watcher Actor)) (c : Casting) (i : Nat) :
    Except LinkError (List (Watcher Actor)) :=
  let place := descriptorOf castings i
  let isFile := c.file || (castings[place]?.any fun other => other.file)
  if isFile then .error (.resource registration .notPermitted)
  else
    let label := "w" ++ toString i
    let watcher : Watcher Actor := {
      label
      descriptor := place
      readiness := c.readiness
      worker := { place := i, label, script := c.script, afterError := c.afterError } }
    if !c.apart && watchers.any (fun w => w.descriptor = place) then
      .error (.resource registration .alreadyExists)
    else register watchers watcher

/-- Registers the castings in order. Each gives an answer, and those that were accepted are
watched; an accepted descriptor that is ready has an event. -/
def castAll (castings : List Casting) :
    List (Casting × Nat) → List (Watcher Actor) → Stage →
      List (Except LinkError Unit) × List (Watcher Actor) × Stage
  | [], watchers, stage => ([], watchers, stage)
  | (c, i) :: rest, watchers, stage =>
    match castOne castings watchers c i with
    | .error e =>
      let (answers, final) := castAll castings rest watchers stage
      (.error e :: answers, final)
    | .ok watchers =>
      let place := descriptorOf castings i
      let stage := { stage with
        events := stage.events.setIfInBounds place (stage.level place c.readiness) }
      let (answers, final) := castAll castings rest watchers stage
      (.ok () :: answers, final)

/-- Sets a stage and registers all castings. -/
def cast (host : Host) (castings : List Casting) :
    List (Except LinkError Unit) × List (Watcher Actor) × Stage :=
  castAll castings castings.zipIdx [] (Stage.set host castings)

/-! ## Performing -/

/-- One run of a rehearsal. -/
structure Performance where
  /-- The descriptors at which a datagram arrives first. -/
  feed : List Nat
  /-- How long the run lasts at most, in milliseconds. -/
  limit : Nat
  /-- Whether the run is asked to stop before it begins. -/
  stopped : Bool
  /-- Whether asking to stop has an effect. -/
  stoppable : Bool

/-- The stage at the beginning of a run. -/
def Stage.begin (s : Stage) (p : Performance) : Stage :=
  let s := p.feed.foldl Stage.feed s
  { s with
    start := s.now
    limit := s.now + p.limit
    stopped := p.stopped
    stoppable := p.stoppable
    calls := [] }

/-- The weight of a script: its turns and the datagrams it sends. -/
def scriptWeight (script : List Step) : Nat :=
  script.length + (script.flatMap Step.feed).length

/-- A bound on the turns of a run. Every call uses up a step of a script, a datagram, an event or
a failing probe, and every wait an event or the end of a pause. -/
def fuelFor (s : Stage) (watchers : List (Watcher Actor)) : Nat :=
  8 * (scriptWeight (watchers.flatMap fun w => w.worker.script) + s.queues.foldl (· + ·) 0
    + 2 * watchers.length + s.host.script.weight + 4)

/-- Performs one run from its beginning. -/
def perform (s : Stage) (watchers : List (Watcher Actor)) :
    (Ending × List (Watcher Actor)) × Stage :=
  run rehearsal (fuelFor s watchers) watchers s

end PacketLink.Reactor
