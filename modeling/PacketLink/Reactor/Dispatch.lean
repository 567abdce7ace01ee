/-!
# What a callback answers

* `Readiness`: what a watcher waits for.
* `Dispatch`: what a callback did with its turn, which decides when it gets the next one.
-/

namespace PacketLink

/-- What a watcher waits for. -/
inductive Readiness where
  /-- Something to receive. -/
  | readable
  /-- Room to send. -/
  | writable
deriving DecidableEq, Repr

/-- The name of a readiness. -/
def Readiness.label : Readiness → String
  | .readable => "Readable"
  | .writable => "Writable"

/-- What a callback did with its turn. -/
inductive Dispatch where
  /-- One frame was moved; the descriptor may have more to do. -/
  | handled
  /-- There was nothing to do. -/
  | idle
  /-- There is nothing to do before so many milliseconds have passed. -/
  | pause (milliseconds : Nat)
deriving DecidableEq, Repr

end PacketLink
