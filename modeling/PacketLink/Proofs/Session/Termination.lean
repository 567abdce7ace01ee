import PacketLink.Proofs.Reactor.Turns
import PacketLink.Proofs.Session.World
import PacketLink.Proofs.Traffic.Chores

/-!
# The event loop of a session ends

A session that is to stop at a time does so: every turn leaves less to do before that time.

* `Run.loop_comesTo`: a proof about the loop from a proof about one turn, with an invariant and a
  measure that every turn that goes on makes smaller.
* `strain`: how often a watcher can still be ready while no time passes.
* `rank`: that, and the time that is left. A turn lowers it (`turn_goes`).
* `runWorker_comesTo`: so the event loop over a worker that paces itself comes to an end, if it may
  take enough turns.
-/

namespace PacketLink.Reactor

variable {σ β : Type} {p : Platform σ β}

/-- What the loop comes to, if a turn either goes on with less or comes to that. -/
theorem Run.loop_comesTo {inv : Run β → σ → Prop} {measure : Run β → σ → Nat}
    {post : Ending → Prop}
    (step : ∀ r s, inv r s →
      (∃ r' s', (r.turn p).run s = (.next r', s') ∧ inv r' s' ∧ measure r' s' < measure r s) ∨
      ∃ ending left s', (r.turn p).run s = (.ended ending left, s') ∧ post ending)
    (r : Run β) (s : σ) (hi : inv r s) :
    ComesTo (fun turns => loop p turns r) s fun a _ => post a.1 := by
  induction hm : measure r s using Nat.strongRecOn generalizing r s with
  | _ m ih =>
    obtain ⟨r', s', ht, hi', hlt⟩ | ⟨ending, left, s', ht, hp⟩ := step r s hi
    · obtain ⟨bound, a, s'', hpost, hrun⟩ := ih _ (hm ▸ hlt) r' s' hi' rfl
      refine ⟨bound + 1, a, s'', hpost, fun turns hle => ?_⟩
      obtain ⟨turns, rfl⟩ := Nat.exists_eq_add_one_of_ne_zero (Nat.ne_zero_of_lt hle)
      show (loop p (turns + 1) r).run s = _
      rw [loop, run_bind, ht]
      exact hrun turns (Nat.le_of_succ_le_succ hle)
    · refine ⟨1, (ending, left), s', hp, fun turns hle => ?_⟩
      obtain ⟨turns, rfl⟩ := Nat.exists_eq_add_one_of_ne_zero (Nat.ne_zero_of_lt hle)
      show (loop p (turns + 1) r).run s = _
      rw [loop, run_bind, ht]
      rfl

/-- A watcher that fails is removed. -/
theorem Run.iterate_lone_removed {r : Run β} {s s' : σ} {l : Looked β} {w : Watcher β}
    {e : LinkError} {stats : Stats}
    (hs : (serve p { r.stats with iterations := r.stats.iterations + 1 } l).run s =
      (((w, some e), stats), s')) :
    ((r.iterate p [l]).run s).1.watchers = [] := by
  simp only [iterate, serveAll, run_bind, hs, run_pure]
  rfl

end PacketLink.Reactor

namespace PacketLink.Session

open Host Reactor

variable {v v' : Watcher Worker} {w w' : World} {t : Nat}

/-! ## Nothing but the host -/

/-- The host has moved on, and no time has passed. -/
structure HostOnly (w w' : World) : Prop where
  schedule : w'.schedule = w.schedule
  now : w'.now = w.now
  event : w'.event = w.event
  script : w'.host.script = w.host.script

theorem HostOnly.trans {w'' : World} (h : HostOnly w w') (h' : HostOnly w' w'') : HostOnly w w'' :=
  ⟨h'.schedule.trans h.schedule, h'.now.trans h.now, h'.event.trans h.event,
    h'.script.trans h.script⟩

theorem onHost_hostOnly {α : Type} {act : Sys α} (ha : Advances act) (w : World) :
    HostOnly w ((onHost act).run w).2 := ⟨rfl, rfl, rfl, (ha w.host).script⟩

/-- The host has moved on, and nobody has more to do. -/
structure Eased (w w' : World) : Prop where
  world : HostOnly w w'
  chores_le : ∀ b, chores w'.host b ≤ chores w.host b

theorem Eased.refl (w : World) : Eased w w := ⟨⟨rfl, rfl, rfl, rfl⟩, fun _ => Nat.le_refl _⟩

theorem report_eased (e : Log.Entry) (w : World) : Eased w ((surroundings.report e).run w).2 :=
  ⟨onHost_hostOnly (report_advances e) w,
    chores_le_of_keeps (report_advances e) (fun _ => rfl) (fun _ => rfl) w.host⟩

theorem probe_eased (d : Nat) (readiness : Readiness) (w : World) :
    Eased w ((surroundings.probe d readiness).run w).2 :=
  ⟨onHost_hostOnly (lookAt_advances d readiness) w, lookAt_chores_le d readiness w.host⟩

/-! ## What is left to do -/

/-- The watcher pauses, and its pause is over. -/
def isDue (v : Watcher Worker) (now : Nat) : Bool := v.resumeAt.any fun resume => resume ≤ now

/-- A bound on how often a watcher can be ready while no time passes and no event arrives. -/
def strain (v : Watcher Worker) (w : World) : Nat :=
  2 * chores w.host v.worker + v.armed.toNat + v.flagged.toNat + 2 * (isDue v w.now).toNat

/-- A bound on the turns of a run that is to stop at a time. -/
def rank (stopAt : Nat) (r : Run Worker) (w : World) : Nat :=
  match r.watchers with
  | [] => 0
  | v :: _ => 4 * (stopAt - w.now) + 2 * w.event.toNat + strain v w + 1

theorem rank_of_eq {r : Run Worker} (hr : r.watchers = [v]) (t : Nat) (w : World) :
    rank t r w = 4 * (t - w.now) + 2 * w.event.toNat + strain v w + 1 := by
  rw [rank, hr]

/-- What a look leaves of a watcher: a watcher that is not ready has nothing to be ready for, and
one that is ready used up what made it so, unless it is armed. -/
inductive Found (v : Watcher Worker) (w : World) : Watcher Worker → World →
    Option (Except Errno Unit) → Prop where
  | resting {v' : Watcher Worker} {w' : World} (hw : Eased w w') (hv : v'.worker = v.worker)
    (hdue : isDue v' w.now = false)
    (hquiet : v'.resumeAt = none → v'.flagged = false ∧ v'.broken = none)
    (hs : strain v' w' ≤ strain v w) : Found v w v' w' none
  | ready {v' : Watcher Worker} {w' : World} (hw : Eased w w') (hv : v'.worker = v.worker)
    (hr : v'.resumeAt = none)
    (hs : 2 * chores w'.host v'.worker + v'.flagged.toNat < strain v w) :
    Found v w v' w' (some (.ok ()))
  | failed {v' : Watcher Worker} {w' : World} (e : Errno) : Found v w v' w' (some (.error e))

theorem strain_awake (hr : v.resumeAt = none) (w : World) :
    strain v w = 2 * chores w.host v.worker + v.armed.toNat + v.flagged.toNat := by
  rw [strain, isDue, hr]
  rfl

theorem lookAwake_found {v₀ : Watcher Worker} (hw : Eased w w') (hv : v.worker = v₀.worker)
    (hr : v.resumeAt = none) (hs : strain v w' ≤ strain v₀ w) :
    Found v₀ w (lookAwake v).1 w' (lookAwake v).2 := by
  have hawake := strain_awake hr w'
  by_cases ha : v.armed = true
  · rw [lookAwake, if_pos ha]
    rw [ha, Bool.toNat_true] at hawake
    exact .ready hw hv hr (by dsimp only; omega)
  · cases hb : v.broken with
    | some e =>
      simp only [lookAwake, ha, hb]
      exact .failed e
    | none =>
      by_cases hf : v.flagged = true
      · simp only [lookAwake, if_neg ha, hb, if_pos hf]
        rw [hf, Bool.toNat_true] at hawake
        exact .ready hw hv hr (by dsimp only [Bool.toNat_false]; omega)
      · simp only [lookAwake, if_neg ha, hb, if_neg hf]
        exact .resting hw hv (by rw [isDue, hr]; rfl)
          (fun _ => ⟨Bool.eq_false_iff.mpr hf, hb⟩) hs

theorem look_found (v : Watcher Worker) (w : World) :
    Found v w ((look surroundings v).run w).1.1 ((look surroundings v).run w).2
      ((look surroundings v).run w).1.2 := by
  unfold look
  cases hr : v.resumeAt with
  | none => exact lookAwake_found (.refl w) rfl hr (Nat.le_refl _)
  | some resume =>
    simp only [run_bind, run_get]
    by_cases hlt : w.now < resume
    · rw [if_pos (show surroundings.now w < resume from hlt)]
      have hdue : isDue v w.now = false := by
        simp [isDue, hr, hlt]
      exact .resting (.refl w) rfl hdue (fun hn => absurd (hr.symm.trans hn) nofun) (Nat.le_refl _)
    · rw [if_neg (show ¬ surroundings.now w < resume from hlt), run_bind]
      have hw := probe_eased v.descriptor v.readiness w
      have hdue : isDue v w.now = true := by
        simp [isDue, hr, Nat.le_of_not_lt hlt]
      obtain ⟨⟨outcome, w₁⟩, hp⟩ :
        ∃ a, (surroundings.probe v.descriptor v.readiness).run w = a := ⟨_, rfl⟩
      rw [hp] at hw ⊢
      cases outcome with
      | error e => exact .failed e
      | ok level =>
        refine lookAwake_found hw rfl rfl ?_
        have hchores : chores w₁.host v.worker ≤ chores w.host v.worker := hw.chores_le _
        have hlevel := level.toNat_le
        rw [strain_awake rfl, strain, hdue, run_pure, Bool.toNat_true]
        dsimp only
        omega

/-! ## Serving -/

/-- A watcher for which an answer was put into effect is no busier than before the turn. -/
theorem schedule_strain {before : Nat} {dispatch : Dispatch} (hr : v.resumeAt = none)
    (hd : Eases before (chores w.host v.worker) dispatch)
    (hrun : (schedule surroundings v dispatch).run w = (v', w')) :
    HostOnly w w' ∧ v'.worker = v.worker ∧ strain v' w' ≤ 2 * before + v.flagged.toNat := by
  cases dispatch with
  | idle =>
    cases hrun
    have hle : chores w.host v.worker ≤ before := hd
    refine ⟨⟨rfl, rfl, rfl, rfl⟩, rfl, ?_⟩
    rw [strain_awake (by exact hr)]
    dsimp only [Bool.toNat_false]
    omega
  | pause milliseconds =>
    cases hrun
    obtain ⟨hpos, hle⟩ := hd
    refine ⟨⟨rfl, rfl, rfl, rfl⟩, rfl, ?_⟩
    have hdue : isDue { v with armed := false, resumeAt := some (w.now + milliseconds) } w.now =
        false := decide_eq_false (Nat.not_le.mpr (Nat.lt_add_of_pos_right hpos))
    rw [strain, show surroundings.now w = w.now from rfl, hdue]
    dsimp only [Bool.toNat_false]
    omega
  | handled =>
    have hlt : chores w.host v.worker < before := hd
    have hw := probe_eased v.descriptor v.readiness w
    obtain ⟨⟨outcome, w₁⟩, hp⟩ :
      ∃ a, (surroundings.probe v.descriptor v.readiness).run w = a := ⟨_, rfl⟩
    rw [hp] at hw
    have hchores : chores w₁.host v.worker ≤ chores w.host v.worker := hw.chores_le _
    simp only [schedule, run_bind, hp] at hrun
    cases outcome with
    | error e =>
      simp only [run_bind] at hrun
      cases hrun
      have hreport : chores _ v.worker ≤ chores w₁.host v.worker :=
        (report_eased (Log.warn "level probe failed" [v.labelField, ("error", e.message)])
          w₁).chores_le v.worker
      refine ⟨hw.world.trans (onHost_hostOnly (report_advances _) _), rfl, ?_⟩
      rw [strain_awake (by exact hr)]
      dsimp only [Bool.toNat_true]
      omega
    | ok level =>
      cases hrun
      have hlevel := level.toNat_le
      refine ⟨hw.world, rfl, ?_⟩
      rw [strain_awake (by exact hr)]
      dsimp only
      omega

/-- A watcher that is served either fails or stays, and is no busier than before. -/
theorem serve_strain {stats stats' : Stats} {failure : Option LinkError}
    (hp : v.worker.Paces w.host.script)
    (hr : v.resumeAt = none)
    (hrun : (serve surroundings stats (v, some (.ok ()))).run w = (((v', failure), stats'), w')) :
    failure.isSome = true ∨ (failure = none ∧ v'.worker.Paces w.host.script ∧ HostOnly w w' ∧
      strain v' w' ≤ 2 * chores w.host v.worker + v.flagged.toNat) := by
  obtain ⟨⟨⟨answer, b⟩, h₁⟩, hb⟩ : ∃ t, v.worker.onReady.run w.host = t := ⟨_, rfl⟩
  have hturn : (surroundings.onReady v.worker).run w = ((answer, b), { w with host := h₁ }) :=
    onHost_run hb
  have hworld : HostOnly w { w with host := h₁ } := by
    have hbefore := v.worker.onReady_advances w.host
    rw [hb] at hbefore
    exact ⟨rfl, rfl, rfl, hbefore.script⟩
  obtain ⟨hpaces, heases⟩ := Worker.onReady_eases hp hb
  cases answer with
  | ok dispatch =>
    right
    obtain ⟨⟨v₁, w₁⟩, hs⟩ : ∃ t, (schedule surroundings { v with worker := b } dispatch).run
      { w with host := h₁ } = t := ⟨_, rfl⟩
    rw [serve_run_ok stats hturn hs] at hrun
    cases hrun
    obtain ⟨hw, hworker, hstrain⟩ := schedule_strain (by exact hr) (heases dispatch rfl) hs
    exact ⟨rfl, hworker ▸ hpaces, hworld.trans hw, hstrain⟩
  | error e =>
    cases he : e.isResource with
    | true =>
      left
      simp only [serve, run_bind, hturn, he, if_true, run_pure] at hrun
      cases hrun
      rfl
    | false =>
      right
      have hreport := report_eased (frameFailed v e) { w with host := h₁ }
      obtain ⟨⟨v₁, w₁⟩, hs⟩ : ∃ t, (schedule surroundings { v with worker := b }
        (surroundings.afterError b)).run
          ((surroundings.report (frameFailed v e)).run { w with host := h₁ }).2 = t := ⟨_, rfl⟩
      rw [serve_run_error stats hturn he hs] at hrun
      cases hrun
      have hsequel : b.sequel (.error e) = some b.afterError := by
        rw [Worker.sequel, he]
        rfl
      have hd : Eases (chores w.host v.worker)
          (chores ((surroundings.report (frameFailed v e)).run { w with host := h₁ }).2.host b)
          b.afterError := (heases _ hsequel).mono (hreport.chores_le b)
      obtain ⟨hw, hworker, hstrain⟩ := schedule_strain (by exact hr) hd hs
      exact ⟨rfl, hworker ▸ hpaces, hworld.trans (hreport.world.trans hw), hstrain⟩

/-! ## Turns -/

/-- A run that is to stop at a time: nobody is left, or its only watcher paces itself, and the
session is or will be asked to stop. -/
inductive Attends (stopAt : Nat) (r : Run Worker) (w : World) : Prop where
  | deserted (hr : r.watchers = [])
  | alone {v : Watcher Worker} (hr : r.watchers = [v]) (hp : v.worker.Paces w.host.script)
    (hs : w.stopped = true ∨ w.schedule = .stopAt stopAt)

/-- What a turn comes to: it goes on with less to do, or ends without giving up. -/
def Goes (stopAt : Nat) (r : Run Worker) (w : World) (turned : Turn Worker × World) : Prop :=
  (∃ r' w', turned = (.next r', w') ∧ Attends stopAt r' w' ∧ rank stopAt r' w' < rank stopAt r w) ∨
  ∃ ending left w', turned = (.ended ending left, w') ∧ ending ≠ .abandoned

theorem interruption_run (hs : w.schedule = .stopAt t) :
    interruption.run w =
      if t ≤ w.now then (some .stop, { w with stopped := true }) else (none, w) := by
  unfold interruption
  simp only [run_bind, run_get, hs]
  split <;> rfl

/-- What interrupts nothing changes nothing. -/
theorem interruption_none (h : (interruption.run w).1 = none) :
    interruption.run w = (none, w) := by
  cases hs : w.schedule with
  | stopped => simp only [interruption, run_bind, run_get, hs, run_pure]
  | stopAt t =>
    rw [interruption_run hs] at h ⊢
    by_cases hle : t ≤ w.now
    · rw [if_pos hle] at h
      cases h
    · rw [if_neg hle]
  | abandonAt t =>
    simp only [interruption, run_bind, run_get, hs, run_pure] at h ⊢
    rw [h]
  | signals =>
    cases hsignal : w.host.signal with
    | none => simp only [interruption, run_bind, run_get, hs, hsignal, run_pure]
    | some signal =>
      simp only [interruption, run_bind, run_get, hs, hsignal] at h
      cases h

/-- A watcher that was marked if it had an event. -/
structure Marked (v : Watcher Worker) (w : World) (v' : Watcher Worker) : Prop where
  worker : v'.worker = v.worker
  armed : v'.armed = v.armed
  resumeAt : v'.resumeAt = v.resumeAt
  broken : v'.broken = v.broken
  flagged_le : v'.flagged.toNat ≤ v.flagged.toNat + w.event.toNat

/-- An event that is collected is used up. -/
theorem collectAll_marked (v : Watcher Worker) (w : World) : ∃ v', Marked v w v' ∧
    (collectAll surroundings [v]).run w = ([v'], { w with event := false }) := by
  refine ⟨{ v with flagged := v.flagged || (w.event && level w.host v.descriptor v.readiness) },
    ⟨rfl, rfl, rfl, rfl, ?_⟩, collectAll_lone rfl⟩
  show (v.flagged || (w.event && level w.host v.descriptor v.readiness)).toNat ≤ _
  cases v.flagged <;> cases w.event <;> cases level w.host v.descriptor v.readiness <;> decide

/-- The next end of a pause or the end of the session, whichever comes first, is still to come. -/
theorem lt_earlier (hdue : isDue v w.now = false) (hlt : w.now < t) :
    w.now < (earlier (earliestResume [v]) (some t)).getD w.now := by
  unfold isDue at hdue
  cases hr : v.resumeAt with
  | none =>
    rw [show earliestResume [v] = none from by simp [earliestResume, hr]]
    exact hlt
  | some resume =>
    rw [show earliestResume [v] = some resume from by simp [earliestResume, hr]]
    rw [hr, Option.any_some, decide_eq_false_iff_not] at hdue
    exact Nat.lt_min.mpr ⟨Nat.lt_of_not_le hdue, hlt⟩

theorem strain_not_due (hdue : isDue v w.now = false) :
    strain v w = 2 * chores w.host v.worker + v.armed.toNat + v.flagged.toNat := by
  rw [strain, hdue]
  rfl

/-- An event that was collected and can be acted on now leaves less to do. -/
theorem Marked.rank_roused {r : Run Worker} (hm : Marked v w v') (hr : r.watchers = [v])
    (hdue : isDue v w.now = false)
    (hquiet : v.resumeAt = none → v.flagged = false ∧ v.broken = none)
    (hroused : v'.isRoused = true) :
    rank t { r with watchers := [v'] } { w with event := false } < rank t r w := by
  obtain ⟨hmarked, hnone⟩ := Bool.and_eq_true_iff.mp hroused
  have hresume := Option.isNone_iff_eq_none.mp hnone
  obtain ⟨hflagged, hbroken⟩ := hquiet (hm.resumeAt ▸ hresume)
  have hflag : v'.flagged = true := by simpa [hm.broken, hbroken] using hmarked
  have hle := hm.flagged_le
  rw [hflag, hflagged, Bool.toNat_true, Bool.toNat_false] at hle
  rw [rank_of_eq hr, rank_of_eq rfl, strain_not_due hdue, strain_awake hresume, hm.worker, hm.armed,
    hflag, Bool.toNat_true]
  dsimp only [Bool.toNat_false]
  omega

/-- So does time that passes before the session is to stop. -/
theorem Marked.rank_slept {r : Run Worker} (hm : Marked v w v') (hr : r.watchers = [v])
    (hdue : isDue v w.now = false) (hlt : w.now < t) {now : Nat} (hnow : w.now < now) :
    rank t { r with watchers := [v'] } { w with event := false, now } < rank t r w := by
  have hover := (isDue v' now).toNat_le
  have hle := hm.flagged_le
  rw [rank_of_eq hr, rank_of_eq rfl, strain_not_due hdue, strain, hm.worker, hm.armed]
  dsimp only [Bool.toNat_false]
  omega

/-- Waiting either uses up an event, or lets time pass. -/
theorem wait_goes {r : Run Worker} (hr : r.watchers = [v]) (hp : v.worker.Paces w.host.script)
    (hs : w.schedule = .stopAt t) (hdue : isDue v w.now = false)
    (hquiet : v.resumeAt = none → v.flagged = false ∧ v.broken = none) :
    Goes t r w ((r.wait surroundings).run w) := by
  have hinterruption : surroundings.interruption.run w = _ := interruption_run hs
  by_cases hle : t ≤ w.now
  · rw [if_pos hle] at hinterruption
    rw [Run.wait, run_bind, hinterruption]
    exact .inr ⟨_, _, _, rfl, Reactor.Ending.noConfusion⟩
  · rw [if_neg hle] at hinterruption
    rw [Run.wait, run_bind, hinterruption]
    left
    obtain ⟨v', hm, hcollect⟩ := collectAll_marked v w
    rw [← hr] at hcollect
    simp only [run_bind, hcollect]
    have hp' : v'.worker.Paces w.host.script := hm.worker ▸ hp
    by_cases hroused : v'.isRoused = true
    · refine ⟨{ r with watchers := [v'] }, { w with event := false }, ?_, .alone rfl hp' (.inr hs),
        hm.rank_roused hr hdue hquiet hroused⟩
      rw [List.any_cons, hroused]
      rfl
    · have hlt : w.now < t := Nat.lt_of_not_le hle
      have hnow : w.now < (earlier (earliestResume [v']) w.schedule.time?).getD w.now := by
        rw [hs]
        exact lt_earlier (by rw [isDue, hm.resumeAt, ← isDue, hdue]) hlt
      refine ⟨{ r with watchers := [v'] }, { w with
        event := false
        now := (earlier (earliestResume [v']) w.schedule.time?).getD w.now }, ?_,
          .alone rfl hp' (.inr hs), hm.rank_slept hr hdue hlt hnow⟩
      rw [List.any_cons, Bool.eq_false_iff.mpr hroused]
      rfl

theorem Goes.mono {r r' : Run Worker} {turned : Turn Worker × World} (h : Goes t r' w' turned)
    (hle : rank t r' w' ≤ rank t r w) : Goes t r w turned := by
  obtain ⟨r'', w'', ht, ha, hlt⟩ | hended := h
  · exact .inl ⟨r'', w'', ht, ha, Nat.lt_of_lt_of_le hlt hle⟩
  · exact .inr hended

/-- If the only watcher is removed nothing is left to do. -/
theorem goes_removed {r : Run Worker} {outcome : Except Errno Unit} {v'' : Watcher Worker}
    {e : LinkError} {stats : Stats} {w'' : World} (hr : r.watchers = [v])
    (hoff : surroundings.stopRequested w = false)
    (hl : (look surroundings v).run w = ((v', some outcome), w'))
    (hs : (serve surroundings { r.stats with iterations := r.stats.iterations + 1 }
      (v', some outcome)).run w' = (((v'', some e), stats), w'')) :
    Goes t r w ((r.turn surroundings).run w) := by
  have hnil := Run.iterate_lone_removed (r := { r with watchers := [v'] }) hs
  obtain ⟨⟨r', w₁⟩, hi⟩ : ∃ a, (({ r with watchers := [v'] } : Run Worker).iterate surroundings
    [(v', some outcome)]).run w' = a := ⟨_, rfl⟩
  rw [hi] at hnil
  rw [Run.turn_lone_ready hr hoff hl hi]
  refine .inl ⟨r', w₁, rfl, .deserted hnil, ?_⟩
  rw [rank_of_eq hr, rank, hnil]
  exact Nat.succ_pos _

/-- A turn goes on with less to do, or ends without giving up. -/
theorem turn_goes {r : Run Worker} (ha : Attends t r w) :
    Goes t r w ((r.turn surroundings).run w) := by
  by_cases hstop : w.stopped = true
  · exact .inr ⟨_, _, w, Run.turn_stopped r hstop, Reactor.Ending.noConfusion⟩
  · have hoff : surroundings.stopRequested w = false := Bool.eq_false_iff.mpr hstop
    cases ha with
    | deserted hr => exact .inr ⟨_, _, w, Run.turn_deserted hoff hr, r.upshot_ne_abandoned⟩
    | @alone v hr hp hs =>
      have hschedule := hs.resolve_left hstop
      have hfound := look_found v w
      obtain ⟨⟨⟨v', outcome⟩, w'⟩, hl⟩ : ∃ a, (look surroundings v).run w = a := ⟨_, rfl⟩
      rw [hl] at hfound
      have hrank := rank_of_eq hr t w
      cases hfound with
      | resting hw hv hdue hquiet hstrain =>
        rw [Run.turn_lone_wait hr hoff hl]
        refine (wait_goes rfl (by rwa [hv, hw.world.script]) (hw.world.schedule.trans hschedule)
          (hw.world.now ▸ hdue) hquiet).mono ?_
        rw [hrank, rank_of_eq rfl, hw.world.now, hw.world.event]
        exact Nat.succ_le_succ (Nat.add_le_add_left hstrain _)
      | ready hw hv hresume hstrain =>
        obtain ⟨⟨⟨⟨v'', failure⟩, stats⟩, w''⟩, hserve⟩ : ∃ a, (serve surroundings
          { r.stats with iterations := r.stats.iterations + 1 } (v', some (.ok ()))).run w' = a :=
            ⟨_, rfl⟩
        have hp₁ : v'.worker.Paces w'.host.script := by rwa [hv, hw.world.script]
        obtain hfailed | ⟨rfl, hp', hw', hstrain'⟩ := serve_strain hp₁ hresume hserve
        · obtain ⟨e, rfl⟩ := Option.isSome_iff_exists.mp hfailed
          exact goes_removed hr hoff hl (by exact hserve)
        · rw [Run.turn_lone_ready hr hoff hl (Run.iterate_lone (by exact hserve))]
          refine .inl ⟨_, w'', rfl, .alone rfl (by rwa [hw'.script])
            (.inr (hw'.schedule.trans (hw.world.schedule.trans hschedule))), ?_⟩
          rw [hrank, rank_of_eq rfl, hw'.now, hw'.event, hw.world.now, hw.world.event]
          exact Nat.succ_lt_succ (Nat.add_lt_add_left (Nat.lt_of_le_of_lt hstrain' hstrain) _)
      | failed e =>
        exact goes_removed hr hoff hl rfl

/-! ## Runs -/

/-- The session is asked to stop, or will be. -/
def Stops (w : World) : Prop := w.stopped = true ∨ ∃ stopAt, w.schedule = .stopAt stopAt

/-- The event loop over a worker that paces itself comes to its end by itself, if the session is
asked to stop or will be at a time. -/
theorem runWorker_comesTo {worker : Worker} (hp : worker.Paces w.host.script)
    (hn : worker.panics = false) (hs : Stops w) :
    ComesTo (fun turns => runWorker turns worker) w fun a _ =>
      ∃ ending, a.1 = some ending ∧ ending ≠ .abandoned := by
  let t := w.schedule.time?.getD 0
  have ha : Attends t { watchers := [watcherOf worker] } w := by
    refine .alone rfl hp (hs.imp_right fun ⟨stopAt, hstop⟩ => ?_)
    rw [show t = stopAt from by simp only [t, hstop, Schedule.time?, Option.getD_some], hstop]
  have hloop := Run.loop_comesTo (fun _ _ h => turn_goes h) _ _ ha
  simp only [runWorker, hn, Bool.false_eq_true, if_false, Reactor.run]
  exact hloop.bind fun a s' hne => .of_run ⟨a.1, rfl, hne⟩

end PacketLink.Session
