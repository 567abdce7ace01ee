import PacketLink.Host.Event
import PacketLink.Host.SlotMemory
import PacketLink.Log

/-!
# The host that a link runs on

* `Host.Script`: how the kernel behaves: page size, interfaces, failures, traffic, signals.
* `Host`: the kernel's side of sockets and mappings, with the calls on record and the log.
* `Sys`: computations that may call the kernel and write to the log.
* `Host.attempt`: one call on record: it is counted, fails if the script says so, and otherwise
  has its effect.
-/

namespace PacketLink

/-- Which way frames move through a ring. -/
inductive RingDirection where
  /-- The kernel fills slots. -/
  | receive
  /-- The program fills slots. -/
  | send
deriving DecidableEq, Repr

/-- The name of a direction. -/
def RingDirection.label : RingDirection → String
  | .receive => "Rx"
  | .send => "Tx"

/-- A signal to the program. -/
inductive Signal where
  | interrupt
  | terminate
deriving DecidableEq, Repr

namespace Host

/-- How the kernel behaves. -/
structure Script where
  /-- The page size that the system reports. -/
  pageSize : Int := 4096
  interfaces : List Interface := []
  /-- What happens to the calls of a sort, one after the other: an error number, or zero for
  success. A negative number lets a readiness probe succeed with these events. -/
  failures : List (Call × List Int) := []
  /-- What happens to all other calls of a sort, for ever. -/
  lasting : Call → Int := fun _ => 0
  /-- The largest number of bytes that one mapping can have, if there is a limit. -/
  mappingLimit : Option Nat := none
  /-- The frames that wait for the first socket bound to every protocol. -/
  inbound : List SlotMemory.Delivery := []
  /-- The frames that arrive later, with one look after the other at a socket without a ring. -/
  arrivals : List (List Bytes) := []
  /-- The status words left behind by frames that the kernel took from rings. -/
  sentStatus : List Nat := []
  /-- How many bytes the calls that send a frame accept, where it is not the whole frame. -/
  accepted : List Nat := []
  /-- The counters of received and dropped packets. -/
  statistics : Nat × Nat := (0, 0)
  /-- A signal that arrives during a call of a sort with a number. -/
  raise : Option (Call × Nat × Signal) := none

/-- What the script has for single calls of a sort. -/
def Script.codes (script : Script) (c : Call) : List Int :=
  ((script.failures.find? fun row => row.1 = c).map Prod.snd).getD []

/-- What happens to the `n`-th call of a sort. -/
def Script.failure (script : Script) (c : Call) (n : Nat) : Int :=
  (script.codes c).getD n (script.lasting c)

/-- How many calls the script mentions. -/
def Script.weight (script : Script) : Nat := (script.failures.flatMap Prod.snd).length

/-- The kernel's side of a socket. -/
structure Socket where
  /-- The frames that wait to be received. -/
  queue : List Bytes := []

/-- A number that stands for a mapping. -/
structure MappingId where
  number : Nat
deriving DecidableEq, Repr

/-- The kernel's side of a mapped ring. -/
structure Mapping where
  owner : Option SocketId
  direction : RingDirection
  memory : SlotMemory
  /-- Whether the ring is still mapped. -/
  active : Bool
  /-- The slot that the kernel looks at next for a frame to send. -/
  nextSend : Nat

end Host

/-- The kernel with what it has done so far. -/
structure Host where
  script : Host.Script
  /-- The number of calls made of each sort. -/
  counts : Array Nat := #[]
  sockets : Array Host.Socket := #[]
  mappings : Array Host.Mapping := #[]
  /-- The number of frames that left through rings. -/
  ringFrames : Nat := 0
  /-- The signal that has arrived and not been noticed. -/
  signal : Option Signal := none
  /-- The calls on record, the latest first. -/
  trace : List Host.Event := []
  /-- The log, the latest report first. -/
  log : List Log.Entry := []

/-- Computations on a host. -/
abbrev Sys := StateM Host

namespace Host

/-- The place of a sort of call in the counters. -/
def Call.place (c : Call) : Nat := Call.all.idxOf c

/-- The number of calls made of a sort. -/
def countOf (h : Host) (c : Call) : Nat := h.counts.getD c.place 0

/-- The counters with one more call of a sort. -/
def counted (h : Host) (c : Call) : Array Nat :=
  ((Array.range Call.all.length).map fun i => h.counts.getD i 0).modify c.place (· + 1)

/-- The page size: what the system reports, or 4096 if that makes no sense. -/
def pageSize (h : Host) : Nat :=
  if 0 < h.script.pageSize then h.script.pageSize.toNat else 4096

/-- A fresh host. -/
def ofScript (script : Script) : Host := { script }

/-- Counts a call and tells what the script has for it. A signal that is due arrives. -/
def enter (c : Call) : Sys Int := fun h =>
  let n := h.countOf c
  let signal :=
    match h.script.raise with
    | some (call, nth, signal) => if call = c ∧ nth = n then some signal else h.signal
    | none => h.signal
  (h.script.failure c n, { h with counts := h.counted c, signal })

/-- Puts an event on record. -/
def record (e : Event) : Sys Unit := modify fun h => { h with trace := e :: h.trace }

/-- Writes a report to the log. -/
def report (e : Log.Entry) : Sys Unit := modify fun h => { h with log := e :: h.log }

/-- Writes reports to the log, in order. -/
def reportAll (es : List Log.Entry) : Sys Unit :=
  modify fun h => { h with log := es.reverse ++ h.log }

/-- One call on record: it fails as scripted or else does what `effect` does. -/
def attempt (c : Call) (event : Outcome α → Event) (effect : Sys (Outcome α)) :
    Sys (Outcome α) := do
  let code ← enter c
  let outcome ← if 0 < code then pure (.error ⟨code.toNat⟩) else effect
  record (event outcome)
  pure outcome

/-- The events and reports since the last time they were taken, in order. -/
def taken (h : Host) : List Event × List Log.Entry := (h.trace.reverse, h.log.reverse)

/-- The host with no event or report left to take. -/
def cleared (h : Host) : Host := { h with trace := [], log := [] }

end Host

end PacketLink
