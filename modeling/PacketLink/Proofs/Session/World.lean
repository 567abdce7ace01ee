import PacketLink.Proofs.Host.Course
import PacketLink.Session.Basic

/-!
# The world of a session

What a computation on the host does to the world, and the host with it.

* `onHost_run` and `step_run`: what the host does, the world does.
* `lookAt_advances`: looking at a descriptor takes the host further.
* `worker?_of_enlist` and `event_of_enlist`: who is registered, and with which event.
* `start?`: the event loop of a session at its beginning.
-/

namespace PacketLink.Session

open Host Reactor

variable {α : Type} {w : World} {link : LinkSocket}

theorem onHost_run {act : Sys α} {h : Host} {a : α} (ha : act.run w.host = (a, h)) :
    (onHost act).run w = (a, { w with host := h }) := by
  show ((act.run w.host).1, { w with host := (act.run w.host).2 }) = _
  rw [ha]

theorem step_run {act : Sys (Except LinkError Unit × LinkSocket)} {h : Host}
    {outcome : Except LinkError Unit} (name : String)
    (ha : act.run w.host = ((outcome, link), h)) :
    (step name act).run w =
      ((outcome.mapError fun e => ⟨some name, e⟩, link), { w with host := h }) := by
  rw [step, run_bind, onHost_run ha]
  rfl

theorem arrive_advances (s : SocketId) : Advances (arrive s) := by
  refine Advances.get.bind fun h => ?_
  split
  · exact .pure _
  · exact updateQueue_advances _ _

/-- Looking at a descriptor takes the host further. -/
theorem lookAt_advances (descriptor : Nat) (readiness : Readiness) :
    Advances (lookAt descriptor readiness) := by
  unfold lookAt
  cases readiness with
  | readable => exact (arrive_advances _).bind fun _ => probe_advances _
  | writable => exact probe_advances _

/-- Who is enlisted is the worker of the link. -/
theorem worker?_of_enlist {config : SessionConfig} {worker : Worker} {w' : World}
    (he : (enlist config link).run w = (.ok worker, w')) :
    link.worker? config.traffic = .ok worker := by
  unfold enlist at he
  cases hworker : link.worker? config.traffic with
  | error e =>
    rw [hworker] at he
    cases he
  | ok worker =>
    simp only [hworker, run_bind, run_get] at he
    split at he <;> cases he
    rfl

/-- Whoever is registered has an event if its descriptor is ready. -/
theorem event_of_enlist {config : SessionConfig} {worker : Worker} {w' : World}
    (he : (enlist config link).run w = (.ok worker, w')) :
    w'.event = level w'.host (watcherOf worker).descriptor (watcherOf worker).readiness := by
  unfold enlist at he
  cases hworker : link.worker? config.traffic with
  | error e =>
    rw [hworker] at he
    cases he
  | ok worker =>
    simp only [hworker, run_bind, run_get] at he
    split at he <;> cases he
    rfl

/-- The event loop of a session at its beginning, if it begins. -/
def start? (config : SessionConfig) (resolver : Resolver) (w₀ : World) :
    Option (Run Worker × World) :=
  match (setUp config resolver (.new config.link)).run w₀ with
  | ((.error _, _), _) => none
  | ((.ok (), link), w) =>
    match (enlist config link).run w with
    | (.error _, _) => none
    | (.ok worker, w) => some ({ watchers := [watcherOf worker] }, w)

/-- The event loop begins once the link is set up and its worker is registered. -/
theorem enlist_of_start? {config : SessionConfig} {resolver : Resolver} {w₀ : World}
    {c : Run Worker × World} (h : start? config resolver w₀ = some c) : ∃ link w worker,
      (setUp config resolver (.new config.link)).run w₀ = ((.ok (), link), w) ∧
        (enlist config link).run w = (.ok worker, c.2) ∧
        c.1 = { watchers := [watcherOf worker] } := by
  unfold start? at h
  split at h
  · cases h
  · rename_i link w hs
    split at h
    · cases h
    · rename_i worker w' he
      cases h
      exact ⟨link, w, worker, hs, he, rfl⟩

end PacketLink.Session
