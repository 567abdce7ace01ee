import PacketLink.Proofs.Link.Lifecycle
import PacketLink.Proofs.Link.Teardown

/-!
# What closing a link does and reports

* `LinkSocket.rings`, `LinkSocket.sockets`: what a link has to give back, in order.
* `teardown_complete`: whatever became of a link, closing it unmaps all its rings and then closes
  all its sockets, and tells of all that failed on the way and of nothing else.

Whether a link without descriptors was to have rings is told by its configuration, and that open
descriptors are those of the configuration holds even of a link that failed (`lived_fits`).
-/

namespace PacketLink

open Host

/-! ## What a link has to give back -/

/-- Whether there is a place for rings, if the descriptors are open. -/
def Transport.ringed? : Transport → Option Bool
  | .unopened => none
  | .direct _ => some false
  | .rings .. => some true

theorem Transport.IsFor.ringed {config : LinkConfig} {mapped : Bool} {transport : Transport}
    (hfor : transport.IsFor config mapped) :
    transport.ringed? = some config.ringFrames.isSome := by
  cases transport with
  | unopened => exact hfor.elim
  | direct s =>
    have hnone : config.ringFrames = none := hfor
    simp [ringed?, hnone]
  | rings rxRing txRing rx tx => simp [ringed?, hfor.1]

namespace LinkSocket

variable {l : LinkSocket} {h k : Host} {made : List (Call × Event)}

/-- The rings of a link that are mapped, the receiving one first. -/
def rings (l : LinkSocket) : List Ring :=
  match l.transport with
  | .unopened | .direct _ => []
  | .rings rxRing txRing _ _ => rxRing.toList ++ txRing.toList

/-- The open sockets of a link, the receiving one first. -/
def sockets (l : LinkSocket) : List PacketSocket :=
  match l.transport with
  | .unopened => []
  | .direct s => [s]
  | .rings _ _ rx tx => [rx, tx]

/-- Each ring is unmapped, and the calls end as they come. -/
def unmapEvents (l : LinkSocket) (h : Host) : List Event :=
  l.rings.zipIdx.map fun (r, n) => unmapEvent r (h.ending .unmap n)

/-- Each socket is closed, and the calls end as they come. -/
def closeEvents (l : LinkSocket) (h : Host) : List Event :=
  l.sockets.zipIdx.map fun (s, n) => .close s.id (h.ending .close n)

/-- What is told of the rings that could not be unmapped. -/
def unmapFailures (l : LinkSocket) (h : Host) : List LinkError :=
  l.rings.zipIdx.flatMap fun (_, n) => lost "munmap" (h.ending .unmap n)

/-- What is told of the sockets that could not be closed. -/
def closeFailures (l : LinkSocket) (h : Host) : List LinkError :=
  l.sockets.zipIdx.flatMap fun (_, n) => lost "close" (h.ending .close n)

theorem closeSocket_makes (hm : Makes h made k) (s : PacketSocket) :
    ((closeSocket s).run k).1 =
        lost "close" (h.ending .close (made.countP (·.1 = .close))) ∧
      Makes h (made ++ [(.close, .close s.id (h.ending .close (made.countP (·.1 = .close))))])
        ((closeSocket s).run k).2 := by
  obtain ⟨houtcome, hmakes⟩ := hm.call .close (.close s.id)
  rw [closeSocket_run, houtcome]
  exact ⟨rfl, hmakes⟩

/-- A ring that was never mapped takes no call. -/
theorem closeRing_makes (hm : Makes h made k) (r : Option Ring) :
    ((closeRing r).run k).1 = (r.toList.flatMap fun _ =>
        lost "munmap" (h.ending .unmap (made.countP (·.1 = .unmap)))) ∧
      Makes h (made ++ r.toList.map fun r =>
          (.unmap, unmapEvent r (h.ending .unmap (made.countP (·.1 = .unmap)))))
        ((closeRing r).run k).2 := by
  cases r with
  | none =>
    rw [Option.toList_none, List.map_nil, List.append_nil]
    exact ⟨rfl, hm⟩
  | some r =>
    have hk : Makes h made (retired r k) := ⟨hm.script, hm.count, hm.trace⟩
    obtain ⟨houtcome, hmakes⟩ := hk.call .unmap (unmapEvent r)
    rw [closeRing_run, houtcome]
    exact ⟨by simp, hmakes⟩

/-- The calls of giving back what a link has. -/
def closingCalls (l : LinkSocket) (h : Host) : List (Call × Event) :=
  (l.unmapEvents h).map (Call.unmap, ·) ++ (l.closeEvents h).map (Call.close, ·)

/-- What is noted without a call. -/
def complaint (l : LinkSocket) : List LinkError :=
  match l.transport with
  | .unopened =>
    if l.usesRing then [.resourceUnavailable "packet rings were never mapped"] else []
  | .direct _ => []
  | .rings rxRing txRing _ _ => unmappedFailure rxRing txRing

/-- Closing makes its calls whatever becomes of them, and tells which of them failed. -/
theorem closeTransport_makes (l : LinkSocket) (h : Host) :
    (l.closeTransport.run h).1 = l.unmapFailures h ++ l.complaint ++ l.closeFailures h ∧
      Makes h (l.closingCalls h) (l.closeTransport.run h).2 := by
  unfold closeTransport unmapFailures complaint closeFailures closingCalls unmapEvents closeEvents
    rings sockets
  cases ht : l.transport with
  | unopened =>
    simp only [run_pure]
    exact ⟨by simp, .refl h⟩
  | direct s =>
    obtain ⟨hfailed, hmakes⟩ := closeSocket_makes (.refl h) s
    exact ⟨by simpa using hfailed, by simpa using hmakes⟩
  | rings rxRing txRing rx tx =>
    simp only [run_bind, run_pure]
    obtain ⟨h₁, hm₁⟩ := closeRing_makes (.refl h) rxRing
    obtain ⟨h₂, hm₂⟩ := closeRing_makes hm₁ txRing
    obtain ⟨h₃, hm₃⟩ := closeSocket_makes hm₂ rx
    obtain ⟨h₄, hm₄⟩ := closeSocket_makes hm₃ tx
    rw [h₁, h₂, h₃, h₄]
    -- The second ring is counted from the first one on, if there is one.
    cases rxRing <;> cases txRing <;> exact ⟨by simp, by simpa using hm₄⟩

/-! ## The descriptors of a configuration -/

/-- The descriptors that are open are those of the configuration. -/
def Fits (config : LinkConfig) (l : LinkSocket) : Prop :=
  ∀ ringed ∈ l.transport.ringed?, ringed = config.ringFrames.isSome

variable {config : LinkConfig} {o : Operation}

theorem Fits.congr {l' : LinkSocket} (hf : l.Fits config)
    (hr : l'.transport.ringed? = l.transport.ringed?) : l'.Fits config := by
  intro ringed hringed
  exact hf ringed (hr ▸ hringed)

theorem fits_of_isFor {mapped : Bool} (hfor : l.transport.IsFor config mapped) :
    l.Fits config := by
  intro ringed hringed
  rw [hfor.ringed] at hringed
  exact (Option.some.inj hringed).symm

theorem open_fits (hf : l.Fits l.config) (resolver : Resolver) (h : Host) :
    ((l.open resolver).run h).1.2.Fits l.config := by
  by_cases hs : l.state = .undefined
  · have hr : l.refusal? "open" [.undefined] = none := refusal?_of_mem (by rw [hs]; decide)
    simp only [LinkSocket.open, hr, run_bind]
    rcases openDescriptors_run l resolver h with ⟨e, he, -⟩ | ⟨transport, interface, ht, hfor⟩
    · rw [he, settle_run]
      exact hf.congr rfl
    · rw [ht, settle_run]
      exact fits_of_isFor hfor
  · have hrun := run_refused (o := .open resolver) (fun hm => hs (List.mem_singleton.mp hm)) h
    rw [show (l.open resolver).run h = _ from hrun]
    exact hf

theorem bindRings_ringed (config : LinkConfig) (interfaceIndex : Nat) (rx tx : PacketSocket) :
    Gives (fun a => a.2.ringed? = some true) (bindRings config interfaceIndex rx tx) := by
  refine .then fun first => ?_
  cases first with
  | error e => exact .pure rfl
  | ok rxRing =>
    refine .then fun second => ?_
    cases second with
    | error e => exact .pure rfl
    | ok txRing => exact .then fun _ => .pure rfl

theorem bindDescriptors_ringed (l : LinkSocket) :
    Gives (fun a => a.2.transport.ringed? = l.transport.ringed?) l.bindDescriptors := by
  unfold bindDescriptors
  cases l.identity with
  | none => exact .pure rfl
  | some interface =>
    cases ht : l.transport with
    | unopened => exact .pure (congrArg _ ht)
    | direct s => exact .then fun _ => .pure (congrArg _ ht)
    | rings rxRing txRing rx tx =>
      exact Gives.bind (bindRings_ringed l.config interface.index rx tx) fun _ ha => .pure ha

theorem bind_ringed (l : LinkSocket) :
    Gives (fun a => a.2.transport.ringed? = l.transport.ringed?) l.bind := by
  unfold LinkSocket.bind
  cases l.refusal? "bind" [.ready] with
  | some e => exact .pure rfl
  | none =>
    refine l.bindDescriptors_ringed.bind fun ⟨outcome, l'⟩ hr h => ?_
    rw [settle_run]
    exact hr

theorem move_ringed (l : LinkSocket) (operation : String) (allowed : List LinkState)
    (next : LinkState) (message : String) :
    Gives (fun a => a.2.transport.ringed? = l.transport.ringed?)
      (l.move operation allowed next message) := by
  unfold LinkSocket.move
  cases l.refusal? operation allowed with
  | some e => exact .pure rfl
  | none => exact .then fun _ => .pure rfl

theorem putBack_ringed (l : LinkSocket) (w : Worker) :
    (l.putBack w).transport.ringed? = l.transport.ringed? := by
  unfold putBack
  split <;> simp [Transport.ringed?, *]

/-- Whatever is asked of a link, its descriptors stay those of the configuration. -/
theorem Fits.run (hf : l.Fits l.config) (o : Operation) (h : Host) :
    ((o.run l).run h).1.2.Fits l.config := by
  cases o with
  | «open» resolver => exact open_fits hf resolver h
  | bind => exact hf.congr (l.bind_ringed h)
  | start => exact hf.congr (l.move_ringed _ _ _ _ h)
  | stop => exact hf.congr (l.move_ringed _ _ _ _ h)
  | watch traffic refusal turns =>
    simp only [Operation.run]
    cases l.worker? traffic with
    | error e => exact hf
    | ok worker =>
      cases refusal with
      | some cause => exact hf
      | none => exact hf.congr (l.putBack_ringed _)
  | close =>
    by_cases hs : l.state = .closed
    · rw [Operation.run, close_again hs]
      exact hf
    · rw [Operation.run, close_run hs]
      intro ringed hringed
      simp [Transport.ringed?] at hringed

theorem lived_fits (config : LinkConfig) (past : List (Operation × Host)) :
    (lived config past).Fits config := by
  induction past using List.reverseRecOn with
  | nil =>
    intro ringed hringed
    simp [lived, new, Transport.ringed?] at hringed
  | append_singleton past turn ih =>
    obtain ⟨o, h⟩ := turn
    have hconfig := (lived_coherent config past).2
    have hrun := Fits.run (l := lived config past) (by rwa [hconfig]) o h
    rw [hconfig] at hrun
    rwa [lived_append]

/-! ## Closing at any time -/

/-- How an answer tells what failed: nothing, one failure as it is, several as a list. -/
structure Tells (failed : List LinkError) (answer : Except LinkError Unit) : Prop where
  nothing : answer = .ok () ↔ failed = []
  one : ∀ e, failed = [e] → answer = .error e
  several : 2 ≤ failed.length → answer = .error (.teardown failed)

theorem tells_teardownOutcome (failed : List LinkError) :
    Tells failed (teardownOutcome failed) := by
  match failed with
  | [] => exact ⟨by simp [teardownOutcome], nofun, by simp⟩
  | [e] => exact ⟨by simp [teardownOutcome], by simp [teardownOutcome], by simp⟩
  | e :: e' :: es => exact ⟨by simp [teardownOutcome], by simp, fun _ => rfl⟩

/-- What is noted beside the calls: that rings are missing, once, however many of them are. -/
def Notes (l : LinkSocket) (noted : List LinkError) : Prop :=
  if l.usesRing = true ∧ l.state ≠ .closed ∧ l.rings.length < 2 then
    ∃ text, noted = [.resourceUnavailable text]
  else noted = []

theorem notes_complaint (hf : l.Fits l.config) (hs : l.state ≠ .closed) : Notes l l.complaint := by
  unfold Notes complaint rings
  cases ht : l.transport with
  | unopened => by_cases hr : l.usesRing = true <;> simp [hr, hs]
  | direct s =>
    have hr : l.usesRing = false := (hf false (by simp [ht, Transport.ringed?])).symm
    simp [hr]
  | rings rxRing txRing rx tx =>
    have hr : l.usesRing = true := (hf true (by simp [ht, Transport.ringed?])).symm
    cases rxRing <;> cases txRing <;> simp [hr, hs, unmappedFailure]

/-- A closed link stays as it is, whatever is asked of it. -/
theorem run_closed (hs : l.state = .closed) (o : Operation) (h : Host) :
    ((o.run l).run h).1.2 = l := by
  by_cases ho : o = .close
  · rw [ho, Operation.run, close_again hs]
  · rw [run_refused fun hm => ho ?_]
    cases o with
    | close => rfl
    | _ => simp [Operation.allowed, hs] at hm

theorem foldl_closed (hs : l.state = .closed) (later : List (Operation × Host)) :
    later.foldl (fun l turn => ((turn.1.run l).run turn.2).1.2) l = l := by
  induction later with
  | nil => rfl
  | cons turn later ih => rw [List.foldl_cons, run_closed hs, ih]

/-- What closing a link on a host does. -/
structure TearsDown (config : LinkConfig) (past : List (Operation × Host)) (l : LinkSocket)
    (h : Host) : Prop where
  /-- A link without rings has a single socket, and no ring to unmap. -/
  single : config.ringFrames = none → l.rings = [] ∧ l.sockets.length ≤ 1
  /-- All rings are unmapped and then all sockets are closed, however these calls end. -/
  calls : Makes h (l.closingCalls h) (l.close.run h).2
  /-- The calls that fail are told in order, and so is that rings were never mapped. -/
  told : ∃ noted, l.Notes noted ∧
    Tells (l.unmapFailures h ++ noted ++ l.closeFailures h) (l.close.run h).1.1
  closed : (l.close.run h).1.2 = { l with transport := .unopened, state := .closed }
  /-- Whatever is asked of the link afterwards, to close or to drop it is no call. -/
  again : ∀ later k, let l' := lived config (past ++ (.close, h) :: later)
    l' = (l.close.run h).1.2 ∧ l'.close.run k = ((.ok (), l'), k) ∧ l'.discard.run k = ((), k)

theorem single_of_fits (hf : l.Fits config) (hr : config.ringFrames = none) :
    l.rings = [] ∧ l.sockets.length ≤ 1 := by
  unfold rings sockets
  cases ht : l.transport with
  | unopened | direct => simp
  | rings rxRing txRing rx tx =>
    have htrue := hf true (by simp [ht, Transport.ringed?])
    simp [hr] at htrue

/-- Closing a link that holds nothing any more makes no call. -/
theorem close_makes_of_closed (hc : l.Coherent) (hs : l.state = .closed) (h : Host) :
    Makes h (l.closingCalls h) (l.close.run h).2 ∧ ∃ noted, l.Notes noted ∧
      Tells (l.unmapFailures h ++ noted ++ l.closeFailures h) (l.close.run h).1.1 := by
  have ht : l.transport = .unopened := hc.unopened (.inr hs)
  have hrings : l.rings = [] := by simp [rings, ht]
  have hsockets : l.sockets = [] := by simp [sockets, ht]
  rw [close_again hs]
  refine ⟨?_, [], by simp [Notes, hs], ?_⟩
  · simpa [closingCalls, unmapEvents, closeEvents, hrings, hsockets] using Makes.refl h
  · simp only [unmapFailures, closeFailures, hrings, hsockets]
    exact tells_teardownOutcome []

theorem close_makes (hf : l.Fits l.config) (hs : l.state ≠ .closed) (h : Host) :
    Makes h (l.closingCalls h) (l.close.run h).2 ∧ ∃ noted, l.Notes noted ∧
      Tells (l.unmapFailures h ++ noted ++ l.closeFailures h) (l.close.run h).1.1 := by
  obtain ⟨hfailed, hmakes⟩ := closeTransport_makes l h
  rw [close_run hs, hfailed]
  refine ⟨?_, l.complaint, notes_complaint hf hs, tells_teardownOutcome _⟩
  simpa only [close, hs, if_false, run_bind, run_pure] using hmakes

/-- Whatever was asked of a link before, closing it is complete: it unmaps all rings, closes all
sockets and tells all that failed, and what is asked of it later makes no call. -/
theorem teardown_complete (config : LinkConfig) (past : List (Operation × Host)) (h : Host) :
    TearsDown config past (lived config past) h := by
  obtain ⟨hc, hconfig⟩ := lived_coherent config past
  have hfits := lived_fits config past
  have hclosed := close_closed hc h
  have hstate : ((lived config past).close.run h).1.2.state = .closed := by rw [hclosed]
  have hagain (later : List (Operation × Host)) :
      lived config (past ++ (.close, h) :: later) = ((lived config past).close.run h).1.2 := by
    rw [lived, List.foldl_append, List.foldl_cons]
    exact foldl_closed hstate later
  have hmakes : Makes h ((lived config past).closingCalls h) ((lived config past).close.run h).2 ∧
      ∃ noted, (lived config past).Notes noted ∧
        Tells ((lived config past).unmapFailures h ++ noted ++ (lived config past).closeFailures h)
          ((lived config past).close.run h).1.1 := by
    by_cases hs : (lived config past).state = .closed
    · exact close_makes_of_closed hc hs h
    · exact close_makes (by rwa [hconfig]) hs h
  refine ⟨single_of_fits hfits, hmakes.1, hmakes.2, hclosed, fun later k => ⟨hagain later, ?_, ?_⟩⟩
  · rw [hagain, close_again hstate]
  · rw [hagain, discard_again hstate]

end LinkSocket

end PacketLink
