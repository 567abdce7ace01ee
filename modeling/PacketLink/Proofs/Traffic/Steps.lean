import PacketLink.Proofs.Host.Course
import PacketLink.Traffic.Worker

/-!
# What a worker is made of

* `Channel.owner`: the socket of a channel.
* `Steps o P`: `P` holds of every step that a worker with a channel of the socket `o` may take, and
  of what is made of such steps.
* `Worker.onReady_steps`: so it holds of the turns of such a worker. After a turn the host is one
  that comes after it (`Worker.onReady_advances`).
-/

namespace PacketLink

open Host

/-- The socket of a ring. -/
def Ring.owner (r : Ring) : Option SocketId := r.socket.map (·.id)

theorem Ring.owner_eq {r : Ring} {s : PacketSocket} (h : r.socket = some s) :
    r.owner = some s.id := by
  rw [owner, h]
  rfl

/-- The socket of a channel. -/
def Channel.owner : Channel → Option SocketId
  | .socket s => some s.id
  | .ring r => r.owner

/-- `P` holds of the steps of a worker with a channel of a socket, and of what is made of them. -/
structure Steps (o : Option SocketId) (P : {α : Type} → Sys α → Prop) : Prop where
  pure {α : Type} (a : α) : P (pure a : Sys α)
  get : P (get : Sys Host)
  bind {α β : Type} {act : Sys α} {next : α → Sys β} (ha : P act) (hn : ∀ a, P (next a)) :
    P (act >>= next)
  report (e : Log.Entry) : P (report e)
  reportAll (es : List Log.Entry) : P (reportAll es)
  updateMemory (id : MappingId) (change : SlotMemory → SlotMemory) : P (updateMemory id change)
  readStatistics (s : SocketId) (hs : o = some s) : P (readStatistics s)
  sendTo (s : SocketId) (hs : o = some s) (frame : Bytes) (address : LinkAddress) :
    P (sendTo s frame address)
  receive (s : SocketId) (hs : o = some s) (length : Nat) : P (receive s length)
  flush (s : SocketId) (hs : o = some s) : P (flush s)

variable {o : Option SocketId} {P : {α : Type} → Sys α → Prop}

namespace Ring

variable (r : Ring)

theorem reportLoss_steps (hp : Steps r.owner P) : P r.reportLoss := by
  unfold reportLoss
  cases hs : r.socket with
  | none => exact hp.report _
  | some socket =>
    refine hp.bind (hp.readStatistics _ (owner_eq hs)) fun outcome => ?_
    cases outcome with
    | error e => exact hp.report _
    | ok counters => exact hp.report _

theorem acquireRead_steps (hp : Steps r.owner P) : P r.acquireRead := by
  unfold acquireRead
  split
  · exact hp.pure _
  · refine hp.bind hp.get fun h => ?_
    dsimp only
    split
    · exact hp.pure _
    · split
      · exact hp.bind (r.reportLoss_steps hp) fun _ => hp.pure _
      · exact hp.pure _

theorem releaseRead_steps (hp : Steps o P) : P r.releaseRead := by
  unfold releaseRead
  split
  · exact hp.bind (hp.updateMemory _ _) fun _ => hp.pure _
  · exact hp.pure _

theorem acquireWrite_steps (hp : Steps o P) : P r.acquireWrite := by
  unfold acquireWrite
  split
  · exact hp.pure _
  · exact hp.bind hp.get fun _ => hp.pure _

theorem submitWrite_steps (hp : Steps r.owner P) (slot : Slot) (frame : Bytes) :
    P (r.submitWrite slot frame) := by
  unfold submitWrite
  split
  · exact hp.pure _
  · refine hp.bind (hp.updateMemory _ _) fun _ => ?_
    cases hs : r.socket with
    | none => exact hp.pure _
    | some socket =>
      refine hp.bind (hp.flush _ (owner_eq hs)) fun outcome => ?_
      cases outcome with
      | error e => exact hp.pure _
      | ok => exact hp.pure _

end Ring

namespace Receiver

theorem decodeCapture_steps (hp : Steps o P) (kind : FrameKind) (captured : Bytes)
    (wireLength : Nat) : P (decodeCapture kind captured wireLength) := by
  unfold decodeCapture
  split
  · exact hp.pure _
  · exact hp.bind (hp.reportAll _) fun _ => hp.pure _

theorem takeFromSocket_steps {s : PacketSocket} (hp : Steps (some s.id) P) (kind : FrameKind)
    (buffer : Bytes) : P (takeFromSocket s kind buffer) := by
  have hreceive : P (s.receive buffer) := by
    refine hp.bind (hp.receive _ rfl _) fun outcome => ?_
    cases outcome with
    | error e => exact hp.pure _
    | ok received => exact hp.pure _
  refine hp.bind hreceive fun a => ?_
  obtain ⟨_ | received, buffer'⟩ := a
  · exact hp.pure _
  · exact hp.bind (decodeCapture_steps hp _ _ _) fun _ => hp.pure _

theorem readSlot_steps (hp : Steps o P) (r : Ring) (slot : Slot) (kind : FrameKind) :
    P (readSlot r slot kind) := by
  unfold readSlot
  split
  · exact hp.pure _
  · refine hp.bind hp.get fun h => ?_
    split
    · exact hp.pure _
    · exact decodeCapture_steps hp _ _ _

theorem takeFromRing_steps {r : Ring} (hp : Steps r.owner P) (kind : FrameKind) :
    P (takeFromRing r kind) := by
  refine hp.bind (r.acquireRead_steps hp) fun ⟨outcome, r'⟩ => ?_
  match outcome with
  | .error e => exact hp.pure _
  | .ok none => exact hp.pure _
  | .ok (some slot) =>
    refine hp.bind (readSlot_steps hp r' slot kind) fun decoded => ?_
    refine hp.bind (r'.releaseRead_steps hp) fun ⟨outcome, r''⟩ => ?_
    cases outcome with
    | error e => exact hp.pure _
    | ok => exact hp.pure _

theorem onReady_steps (x : Receiver) (hp : Steps x.channel.owner P) : P x.onReady := by
  have htake : P x.take := by
    unfold take
    cases hc : x.channel with
    | socket s =>
      rw [hc] at hp
      exact hp.bind (takeFromSocket_steps hp _ _) fun _ => hp.pure _
    | ring r =>
      rw [hc] at hp
      exact hp.bind (takeFromRing_steps hp _) fun _ => hp.pure _
  refine hp.bind htake fun ⟨outcome, x'⟩ => ?_
  match outcome with
  | .error e => exact hp.pure _
  | .ok none => exact hp.pure _
  | .ok (some f) => exact hp.bind (hp.report _) fun _ => hp.pure _

end Receiver

namespace Transmitter

theorem sendToSocket_steps {s : PacketSocket} (hp : Steps (some s.id) P) (plan : TransmitPlan)
    (bytes : Bytes) : P (sendToSocket s plan bytes) := by
  refine hp.bind (hp.sendTo _ rfl _ _) fun outcome => ?_
  cases outcome with
  | error e => exact hp.pure _
  | ok written => exact hp.pure _

theorem sendToRing_steps {r : Ring} (hp : Steps r.owner P) (bytes : Bytes) :
    P (sendToRing r bytes) := by
  refine hp.bind (r.acquireWrite_steps hp) fun outcome => ?_
  obtain e | _ | slot := outcome
  · exact hp.pure _
  · exact hp.pure _
  · dsimp only
    split
    · refine hp.bind (hp.report _) fun _ => hp.bind (r.submitWrite_steps hp _ _) ?_
      rintro ⟨_ | _, _⟩ <;> exact hp.pure _
    · refine hp.bind (r.submitWrite_steps hp _ _) ?_
      rintro ⟨_ | _, _⟩ <;> exact hp.pure _

theorem onReady_steps (x : Transmitter) (hp : Steps x.channel.owner P) : P x.onReady := by
  have hsend (bytes : Bytes) : P (x.send bytes) := by
    unfold send
    cases hc : x.channel with
    | socket s =>
      rw [hc] at hp
      exact hp.bind (sendToSocket_steps hp _ _) fun _ => hp.pure _
    | ring r =>
      rw [hc] at hp
      exact hp.bind (sendToRing_steps hp _) fun _ => hp.pure _
  unfold onReady
  split
  · exact hp.pure _
  · refine hp.bind (hsend _) fun ⟨outcome, x'⟩ => ?_
    match outcome with
    | .error e => exact hp.pure _
    | .ok false => exact hp.pure _
    | .ok true => exact hp.pure _

end Transmitter

/-- What holds of the steps of a worker holds of its turns. -/
theorem Worker.onReady_steps (w : Worker) (hp : Steps w.channel.owner P) : P w.onReady := by
  cases w with
  | receiver x => exact hp.bind (x.onReady_steps hp) fun _ => hp.pure _
  | transmitter x => exact hp.bind (x.onReady_steps hp) fun _ => hp.pure _

/-- No step takes the host back. -/
theorem advances_steps : Steps o fun act => Advances act where
  pure := Advances.pure
  get := Advances.get
  bind := Advances.bind
  report := report_advances
  reportAll := reportAll_advances
  updateMemory id _ := updateMapping_advances id _
  readStatistics s _ := readStatistics_advances s
  sendTo s _ := sendTo_advances s
  receive s _ := receive_advances s
  flush s _ := flush_advances s

theorem Worker.onReady_advances (w : Worker) : Advances w.onReady :=
  w.onReady_steps (P := fun act => Advances act) advances_steps

end PacketLink
