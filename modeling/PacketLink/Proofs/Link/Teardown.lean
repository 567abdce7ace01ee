import PacketLink.Link.Socket
import PacketLink.Proofs.Host.Ending

/-!
# The steps of closing a link

A link gives back what it has step by step, and no step depends on how the others went.

* `Disposal`: one step: a ring is unmapped, a socket is closed, or it is noted that a ring was never
  mapped. `LinkSocket.disposals` lists the steps for what a link has.
* `Disposes steps act`: `act` takes these steps, each of them once and in order, and gives the
  failures of all of them.
* `close_disposes`: that is what closing does, and the link is closed then.
* `LinkSocket.Lasts`: no other operation closes a link or changes its configuration.
-/

namespace PacketLink

open Host

/-- One step of closing a link. -/
inductive Disposal where
  | unmap (r : Ring)
  | close (s : PacketSocket)
  /-- A failure that is noted without a call. -/
  | note (cause : LinkError)

namespace Disposal

/-- The call of a step that ended like this, if the step is a call. -/
def event? : Disposal → Outcome Unit → Option Event
  | .unmap r, outcome => some (.unmap (r.socket.map (·.id)) (r.slotSize * r.capacity) outcome)
  | .close s, outcome => some (.close s.id outcome)
  | .note _, _ => none

/-- The failure of a step that ended like this, if it failed. -/
def failure? : Disposal → Outcome Unit → Option LinkError
  | .unmap _, .error e => some (.resource "munmap" e)
  | .close _, .error e => some (.resource "close" e)
  | .unmap _, .ok () | .close _, .ok () => none
  | .note cause, _ => some cause

end Disposal

/-- The calls of steps that ended like this, in order. -/
def disposalEvents (taken : List (Disposal × Outcome Unit)) : List Event :=
  taken.filterMap fun (d, outcome) => d.event? outcome

/-- The failures of steps that ended like this, in order. -/
def disposalFailures (taken : List (Disposal × Outcome Unit)) : List LinkError :=
  taken.filterMap fun (d, outcome) => d.failure? outcome

/-- The steps were taken, each of them once and in order, and this is what failed. -/
def Disposed (steps : List Disposal) (h h' : Host) (failed : List LinkError) : Prop :=
  ∃ taken, taken.map Prod.fst = steps ∧ failed = disposalFailures taken ∧
    h'.trace = (disposalEvents taken).reverse ++ h.trace

/-- Whatever the host, `act` takes these steps. -/
def Disposes (steps : List Disposal) (act : Sys (List LinkError)) : Prop :=
  ∀ h, Disposed steps h (act.run h).2 (act.run h).1

theorem Disposed.append {steps steps' : List Disposal} {h h' h'' : Host}
    {failed failed' : List LinkError} (hd : Disposed steps h h' failed)
    (hd' : Disposed steps' h' h'' failed') :
    Disposed (steps ++ steps') h h'' (failed ++ failed') := by
  obtain ⟨taken, rfl, rfl, ht⟩ := hd
  obtain ⟨taken', rfl, rfl, ht'⟩ := hd'
  refine ⟨taken ++ taken', List.map_append, ?_, ?_⟩
  · rw [disposalFailures, disposalFailures, disposalFailures, List.filterMap_append]
  · rw [ht', ht, disposalEvents, disposalEvents, disposalEvents, List.filterMap_append,
      List.reverse_append, List.append_assoc]

/-- Failures are noted without a call. -/
theorem Disposed.notes (h : Host) (failed : List LinkError) :
    Disposed (failed.map .note) h h failed := by
  induction failed with
  | nil => exact ⟨[], rfl, rfl, rfl⟩
  | cons e failed ih =>
    obtain ⟨taken, hsteps, hfailed, ht⟩ := ih
    refine ⟨(.note e, .ok ()) :: taken, ?_, ?_, ht⟩
    · rw [List.map_cons, List.map_cons, hsteps]
    · exact congrArg (e :: ·) hfailed

namespace LinkSocket

variable {l : LinkSocket}

/-- What the failure of a call is told as. -/
def lost (operation : String) : Outcome Unit → List LinkError
  | .ok () => []
  | .error e => [.resource operation e]

/-- A ring is unmapped. -/
def unmapEvent (r : Ring) : Outcome Unit → Event :=
  .unmap (r.socket.map (·.id)) (r.slotSize * r.capacity)

/-- Closing a socket is one call. -/
theorem closeSocket_run (s : PacketSocket) (k : Host) :
    (closeSocket s).run k = (lost "close" ((plainCall .close (.close s.id)).run k).1,
      ((plainCall .close (.close s.id)).run k).2) := by
  simp only [closeSocket, PacketSocket.close, Host.closeSocket, run_bind]
  cases ((plainCall .close (.close s.id)).run k).1 <;> rfl

/-- The kernel's side of a ring that is given back. -/
def retired (r : Ring) (k : Host) : Host :=
  ((updateMapping r.mapping fun mapping => { mapping with active := false }).run k).2

/-- Giving a ring back is one call. -/
theorem closeRing_run (r : Ring) (k : Host) :
    (closeRing (some r)).run k =
      (lost "munmap" ((plainCall .unmap (unmapEvent r)).run (retired r k)).1,
        ((plainCall .unmap (unmapEvent r)).run (retired r k)).2) := by
  have hunmap : r.unmap.run k = (plainCall .unmap (unmapEvent r)).run (retired r k) := rfl
  simp only [closeRing, Ring.close, run_bind, hunmap]
  cases ((plainCall .unmap (unmapEvent r)).run (retired r k)).1 <;> rfl

theorem closeSocket_disposes (s : PacketSocket) : Disposes [.close s] (closeSocket s) := by
  intro h
  rw [closeSocket_run, plainCall_run]
  cases h.ending .close 0 <;> exact ⟨[(.close s, _)], rfl, rfl, rfl⟩

theorem closeRing_disposes (ring : Option Ring) :
    Disposes (ring.toList.map .unmap) (closeRing ring) := by
  intro h
  cases ring with
  | none => exact ⟨[], rfl, rfl, rfl⟩
  | some r =>
    rw [closeRing_run, plainCall_run]
    cases (retired r h).ending .unmap 0 <;> exact ⟨[(.unmap r, _)], rfl, rfl, rfl⟩

/-- The steps of closing a link: rings before sockets. -/
def disposals (l : LinkSocket) : List Disposal :=
  match l.transport with
  | .unopened =>
    if l.usesRing then [.note (.resourceUnavailable "packet rings were never mapped")] else []
  | .direct s => [.close s]
  | .rings rxRing txRing rx tx =>
    rxRing.toList.map .unmap ++ txRing.toList.map .unmap
      ++ (unmappedFailure rxRing txRing).map .note ++ [.close rx] ++ [.close tx]

theorem closeTransport_disposes (l : LinkSocket) : Disposes l.disposals l.closeTransport := by
  intro h
  cases ht : l.transport with
  | unopened =>
    simp only [closeTransport, disposals, ht, run_pure]
    split
    · exact .notes h [_]
    · exact .notes h []
  | direct s =>
    simp only [closeTransport, disposals, ht]
    exact closeSocket_disposes s h
  | rings rxRing txRing rx tx =>
    simp only [closeTransport, disposals, ht, run_bind, run_pure]
    have h₁ := closeRing_disposes rxRing h
    have h₂ := h₁.append (closeRing_disposes txRing _)
    have h₃ := h₂.append (.notes _ (unmappedFailure rxRing txRing))
    have h₄ := h₃.append (closeSocket_disposes rx _)
    exact h₄.append (closeSocket_disposes tx _)

/-- What a closed link is asked to close is done already. -/
theorem close_again (hs : l.state = .closed) (h : Host) : l.close.run h = ((.ok (), l), h) := by
  simp only [close, hs, if_true, run_pure]

theorem discard_again (hs : l.state = .closed) (h : Host) : l.discard.run h = ((), h) := by
  simp only [discard, hs, if_true, run_pure]

/-- What closing a link does: it takes all steps, and answers with what failed. -/
structure Closes (l : LinkSocket) (h : Host) : Prop where
  closed : (l.close.run h).1.2.state = .closed
  disposed : ∃ failed, Disposed l.disposals h (l.close.run h).2 failed ∧
    (l.close.run h).1.1 = teardownOutcome failed
  /-- If the link is closed again or dropped, no step is taken again. -/
  again : ∀ k, (l.close.run h).1.2.close.run k = ((.ok (), (l.close.run h).1.2), k)
  dropped : ∀ k, (l.close.run h).1.2.discard.run k = ((), k)

theorem close_disposes (hs : l.state ≠ .closed) (h : Host) : l.Closes h := by
  have hrun : l.close.run h = ((teardownOutcome (l.closeTransport.run h).1,
      { l with transport := .unopened, state := .closed }), (l.closeTransport.run h).2) := by
    simp only [close, hs, if_false, run_bind, run_pure]
  have hclosed : (l.close.run h).1.2.state = .closed := by rw [hrun]
  refine ⟨hclosed, ⟨(l.closeTransport.run h).1, ?_, by rw [hrun]⟩, close_again hclosed,
    discard_again hclosed⟩
  rw [hrun]
  exact closeTransport_disposes l h

/-! ## Links that are not closed -/

variable {config : LinkConfig}

/-- The link has this configuration and is not closed. -/
structure Lasts (config : LinkConfig) (l : LinkSocket) : Prop where
  config : l.config = config
  unclosed : l.state ≠ .closed

theorem settle_lasts (hc : l.config = config) (operation : String) {next : LinkState}
    (hn : next ≠ .closed) (outcome : Except LinkError Unit) :
    Gives (fun a => a.2.Lasts config) (l.settle operation next outcome) := by
  cases outcome with
  | ok => exact .pure ⟨hc, hn⟩
  | error e => exact .then fun _ => .pure ⟨hc, nofun⟩

theorem openDescriptors_config (l : LinkSocket) (resolver : Resolver) :
    Gives (fun a => a.2.config = l.config) (l.openDescriptors resolver) := by
  refine .then fun found => ?_
  cases found with
  | error e => exact .pure rfl
  | ok interface =>
    refine .then fun opened => ?_
    cases opened with
    | error e => exact .pure rfl
    | ok transport => exact .then fun _ => .pure rfl

theorem bindDescriptors_config (l : LinkSocket) :
    Gives (fun a => a.2.config = l.config) l.bindDescriptors := by
  unfold bindDescriptors
  cases l.identity with
  | none => exact .pure rfl
  | some interface =>
    cases l.transport with
    | unopened => exact .pure rfl
    | direct s => exact .then fun _ => .pure rfl
    | rings rxRing txRing rx tx => exact .then fun _ => .pure rfl

theorem Lasts.open (hl : l.Lasts config) (resolver : Resolver) :
    Gives (fun a => a.2.Lasts config) (l.open resolver) := by
  unfold LinkSocket.open
  cases l.refusal? "open" [.undefined] with
  | some e => exact .pure hl
  | none =>
    exact (l.openDescriptors_config resolver).bind fun ⟨outcome, _⟩ ha =>
      settle_lasts (ha.trans hl.config) "open" (by nofun) outcome

theorem Lasts.bind (hl : l.Lasts config) : Gives (fun a => a.2.Lasts config) l.bind := by
  unfold LinkSocket.bind
  cases l.refusal? "bind" [.ready] with
  | some e => exact .pure hl
  | none =>
    exact l.bindDescriptors_config.bind fun ⟨outcome, _⟩ ha =>
      settle_lasts (ha.trans hl.config) "bind" (by nofun) outcome

theorem Lasts.move (hl : l.Lasts config) (operation : String) (allowed : List LinkState)
    {next : LinkState} (hn : next ≠ .closed) (message : String) :
    Gives (fun a => a.2.Lasts config) (l.move operation allowed next message) := by
  unfold LinkSocket.move
  cases l.refusal? operation allowed with
  | some e => exact .pure hl
  | none => exact .then fun _ => .pure ⟨hl.config, hn⟩

theorem Lasts.start (hl : l.Lasts config) : Gives (fun a => a.2.Lasts config) l.start :=
  hl.move _ _ (by nofun) _

theorem Lasts.stop (hl : l.Lasts config) : Gives (fun a => a.2.Lasts config) l.stop :=
  hl.move _ _ (by nofun) _

theorem Lasts.putBack (hl : l.Lasts config) (worker : Worker) :
    (l.putBack worker).Lasts config := by
  unfold LinkSocket.putBack
  split <;> exact ⟨hl.config, hl.unclosed⟩

end LinkSocket

end PacketLink
