import PacketLink.Traffic.Receiver
import PacketLink.Traffic.Transmitter

/-!
# Workers

* `Worker`: a receiver or a transmitter, whichever a link needs.
* `Worker.onReady` and `Worker.afterError`: what a watcher calls.
-/

namespace PacketLink

/-- What moves the frames of a link. -/
inductive Worker where
  | receiver (x : Receiver)
  | transmitter (x : Transmitter)

namespace Worker

/-- Where the frames pass. -/
def channel : Worker → Channel
  | .receiver x => x.channel
  | .transmitter x => x.channel

/-- What the worker waits for. -/
def readiness : Worker → Readiness
  | .receiver _ => .readable
  | .transmitter _ => .writable

/-- The name of the worker in the log. -/
def label (w : Worker) : String :=
  (match w with
    | .receiver _ => "rx"
    | .transmitter _ => "tx")
  ++ (match w.channel with
    | .socket _ => ""
    | .ring _ => "-ring")

/-- The number of frames moved. -/
def count : Worker → Nat
  | .receiver x => x.received
  | .transmitter x => x.sent

/-- Whether the program panics in each turn of the worker. -/
def panics : Worker → Bool
  | .receiver _ => false
  | .transmitter x => x.plan.panics

/-- One turn, of a worker that does not panic. -/
def onReady : Worker → Sys (Except LinkError Dispatch × Worker)
  | .receiver x => do
    let (answer, x) ← x.onReady
    pure (answer, .receiver x)
  | .transmitter x => do
    let (answer, x) ← x.onReady
    pure (answer, .transmitter x)

/-- What follows a turn that failed for one frame only. -/
def afterError : Worker → Dispatch
  | .receiver _ => Receiver.afterError
  | .transmitter x => x.afterError

end Worker

end PacketLink
