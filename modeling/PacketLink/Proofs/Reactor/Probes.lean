import PacketLink.Proofs.Reactor.Accounting
import PacketLink.Proofs.Reactor.Pauses

/-!
# Probes that fail

A descriptor is probed at the end of a pause, and after a call that lets the watcher go on at once.
A probe that fails at the end of a pause removes the watcher. One that fails after a call arms it,
so that its worker finds out, and what becomes of it then is up to the worker.

* `Encounter.ProbeFails p P cause x`: in an encounter a probe fails, and `P` holds from then on.
* `Iterated.removed` and `Run.Serving.armed`: what becomes of the watcher.
* `Unaware p P W d e`: while `P` holds every probe of `d` fails, and its workers blame the frame.
* `Unaware.reaches`: such a worker, once armed, is called in every turn and never removed. Only a
  request to stop ends the run (`Unaware.stopped`).
* `GoneWhenCalled p d c`: whoever watches `d` is gone as soon as it has been called.
-/

namespace PacketLink.Reactor

variable {σ β : Type} {p : Platform σ β} {P : σ → Prop} {W : β → Prop} {d n : Nat} {cause : Errno}
  {e : LinkError} {w w' : Watcher β} {ws : List (Watcher β)} {s s' s₁ : σ} {r r' : Run β}
  {x : Encounter σ β} {xs : List (Encounter σ β)} {its : List (List (Encounter σ β))}
  {stats : Stats} {looked : List (Looked β)} {answer : Except LinkError Dispatch} {left : β}

/-- In an encounter a probe of the descriptor fails. If that is after a call, `P` holds from then
on. -/
inductive Encounter.ProbeFails (p : Platform σ β) (P : σ → Prop) (cause : Errno)
    (x : Encounter σ β) : Prop where
  /-- At the end of a pause. -/
  | resumed (hf : x.fate = .failed cause)
  /-- After a call that moved a frame. -/
  | handled {left : β} {s₁ : σ} (hf : x.fate = .answered (.ok .handled) left)
    (hp : (p.probe x.watcher.descriptor x.watcher.readiness).run x.after = (.error cause, s₁))
    (hs : P s₁)
  /-- After a call that failed for one frame, when that was reported. -/
  | excused {e : LinkError} {left : β} {s₁ : σ} (hf : x.fate = .answered (.error e) left)
    (he : e.isResource = false) (ha : p.afterError left = .handled)
    (hp : (p.probe x.watcher.descriptor x.watcher.readiness).run
      ((p.report (frameFailed x.watcher e)).run x.after).2 = (.error cause, s₁))
    (hs : P s₁)

/-! ## Looking -/

theorem look_armed (ha : w.armed = true) (hr : w.resumeAt = none) (s : σ) :
    (look p w).run s = ((w, some (.ok ())), s) := by
  rw [look, hr]
  simp only [lookAwake, ha, if_true, run_pure]

theorem mem_lookAll {l : Looked β} (hw : w ∈ ws) (hl : ∀ s, ((look p w).run s).1 = l) :
    l ∈ ((lookAll p ws).run s).1 := by
  induction ws generalizing s with
  | nil => cases hw
  | cons v ws ih =>
    simp only [lookAll, run_bind, run_pure, List.mem_cons]
    rcases List.mem_cons.mp hw with rfl | hw
    · exact .inl (hl s).symm
    · exact .inr (ih hw)

/-- Whoever is ready does not pause any more. -/
theorem look_resumeAt (p : Platform σ β) (w : Watcher β) (s : σ)
    (hl : ((look p w).run s).1.2 = some (.ok ())) : ((look p w).run s).1.1.resumeAt = none := by
  have hawake {w : Watcher β} (hr : w.resumeAt = none) : (lookAwake w).1.resumeAt = none := by
    rcases lookAwake_fst w with h | h <;> rw [h] <;> exact hr
  unfold look at hl ⊢
  cases hr : w.resumeAt with
  | none => exact hawake hr
  | some t =>
    simp only [hr, run_bind, run_get] at hl ⊢
    split at hl
    · cases hl
    · rename_i ht
      simp only [ht, if_false, run_bind]
      cases ((p.probe w.descriptor w.readiness).run s).1 with
      | ok level => exact hawake rfl
      | error cause => rfl

theorem lookAll_resumeAt (p : Platform σ β) (ws : List (Watcher β)) (s : σ) :
    ∀ l ∈ ((lookAll p ws).run s).1, l.2 = some (.ok ()) → l.1.resumeAt = none := by
  induction ws generalizing s with
  | nil => exact nofun
  | cons w ws ih => exact List.forall_mem_cons.mpr ⟨look_resumeAt p w s, ih _⟩

theorem Iterated.resumeAt_eq_none (h : Iterated p r s xs r' s') (hx : x ∈ xs)
    (hf : x.fate = .answered answer left) : x.watcher.resumeAt = none := by
  refine lookAll_resumeAt p r.watchers s (x.watcher, x.fate.look) ?_ (by rw [hf, Fate.look])
  rw [← h.looked]
  exact List.mem_map.mpr ⟨x, hx, rfl⟩

/-- What an iteration does, its turn comes to. -/
theorem Run.iterated (hx : r.iteration? p s = some xs) (ht : (r.turn p).run s = (.next r', s')) :
    Iterated p r s xs r' s' := by
  obtain ⟨r₁, s₁, ht₁, h⟩ := Run.turn_iterated hx
  cases ht.symm.trans ht₁
  exact h

/-! ## Serving -/

/-- The complaint about a probe that failed after a call. -/
def probeFailed (w : Watcher β) (cause : Errno) : Log.Entry :=
  Log.warn "level probe failed" [w.labelField, ("error", cause.message)]

theorem schedule_run_error (hp : (p.probe w.descriptor w.readiness).run s = (.error cause, s₁)) :
    (schedule p w .handled).run s =
      ({ w with armed := true }, ((p.report (probeFailed w cause)).run s₁).2) := by
  simp only [schedule, run_bind, hp, run_pure, probeFailed]

/-- A probe that fails after a call arms the watcher. -/
theorem Encounter.ProbeFails.serve_run (h : x.ProbeFails p P cause) (hp : Abides p P)
    (hf : x.fate = .answered answer left)
    (hrun : (p.onReady x.watcher.worker).run x.before = ((answer, left), x.after)) :
    ∃ t, P t ∧ ∀ stats, ∃ stats', (serve p stats (x.watcher, x.fate.look)).run x.before =
      ((({ x.watcher with worker := left, armed := true }, none), stats'), t) := by
  have hlook : x.fate.look = some (.ok ()) := by rw [hf, Fate.look]
  rw [hlook]
  cases h with
  | resumed hf' => cases hf'.symm.trans hf
  | handled hf' hprobe hs =>
    cases hf'.symm.trans hf
    have hschedule := schedule_run_error (w := { x.watcher with worker := left }) hprobe
    exact ⟨_, hp.report _ _ hs, fun stats => ⟨_, serve_run_ok stats hrun hschedule⟩⟩
  | excused hf' he ha hprobe hs =>
    cases hf'.symm.trans hf
    have hschedule := schedule_run_error (w := { x.watcher with worker := left }) hprobe
    rw [← ha] at hschedule
    exact ⟨_, hp.report _ _ hs, fun stats => ⟨_, serve_run_error stats hrun he hschedule⟩⟩

/-- Serving everybody comes to each encounter, and what is left of the watcher is among the rest. -/
theorem serveAll_of_mem (hx : x ∈ meetAll p stats looked s) : ∃ stats',
    ((serve p stats' (x.watcher, x.fate.look)).run x.before).1.1 ∈
        ((serveAll p stats looked).run s).1.1 ∧
      ∀ P, Abides p P → P ((serve p stats' (x.watcher, x.fate.look)).run x.before).2 →
        P ((serveAll p stats looked).run s).2 := by
  induction looked generalizing stats s with
  | nil => simp [meetAll] at hx
  | cons l looked ih =>
    rw [meetAll, List.mem_cons] at hx
    simp only [serveAll, run_bind, run_pure, List.mem_cons]
    rcases hx with rfl | hx
    · have hmeet : ((meet p l s).watcher, (meet p l s).fate.look) = l ∧
          (meet p l s).before = s := by
        obtain ⟨w, _ | cause | ⟨⟨⟩⟩⟩ := l <;> exact ⟨rfl, rfl⟩
      rw [hmeet.1, hmeet.2]
      exact ⟨stats, .inl rfl, fun P hp hP => hp.serveAll _ looked _ hP⟩
    · obtain ⟨stats', hmem, habides⟩ := ih hx
      exact ⟨stats', .inr hmem, habides⟩

/-- A watcher whose probe fails after a call stays and is armed. -/
theorem Run.Serving.armed (hp : Abides p P) (h : r.Serving p s xs looked s₁)
    (ht : (r.turn p).run s = (.next r', s')) (hx : x ∈ xs) (hfails : x.ProbeFails p P cause)
    (hf : x.fate = .answered answer left) :
    { x.watcher with worker := left, armed := true } ∈ r'.watchers ∧ P s' := by
  have hmem := h.met ▸ hx
  obtain ⟨t, hP, hserve⟩ := hfails.serve_run hp hf (meetAll_run hmem hf)
  obtain ⟨stats, hserved, habides⟩ := serveAll_of_mem hmem
  obtain ⟨stats', hserve⟩ := hserve stats
  rw [hserve] at hserved habides
  rw [h.turn_run] at ht
  obtain ⟨hnext, rfl⟩ := Prod.mk.inj ht
  obtain rfl := Turn.next.inj hnext
  exact ⟨mem_survivors.mpr hserved, hp.reportRemoved _ _ (habides P hp hP)⟩

/-- Whoever fails is gone. -/
theorem Iterated.removed (h : Iterated p r s xs r' s')
    (hdistinct : (r.watchers.map (·.descriptor)).Nodup) (hx : x ∈ xs)
    (hf : x.fate.failure.isSome = true) :
    x.watcher.descriptor ∉ r'.watchers.map (·.descriptor) := by
  have hkept := map_eq_map_of_forall₂ (f := (·.watcher.descriptor)) (g := (·.descriptor))
    (h.kept.imp fun _ _ hk => hk.descriptor_eq.symm)
  rw [← hkept]
  intro hmem
  obtain ⟨y, hfilter, hd⟩ := List.mem_map.mp hmem
  obtain ⟨hy, hstays⟩ := List.mem_filter.mp hfilter
  rw [← h.descriptors_eq] at hdistinct
  obtain rfl : y = x := List.inj_on_of_nodup_map hdistinct hy hx hd
  simp only [Visit.stays, Encounter.visit, Option.isNone_iff_eq_none] at hstays
  simp [hstays] at hf

/-! ## Workers who do not find out -/

/-- A watcher of `d` that will be called in the next turn. -/
structure Armed (W : β → Prop) (d : Nat) (w : Watcher β) : Prop where
  descriptor : w.descriptor = d
  worker : W w.worker
  armed : w.armed = true
  resumeAt : w.resumeAt = none

/-- While `P` holds, which is for good, every probe of `d` fails, and so does every call of such a
worker, who blames the frame and wants to go on. -/
structure Unaware (p : Platform σ β) (P : σ → Prop) (W : β → Prop) (d : Nat) (e : LinkError) :
    Prop where
  abides : Abides p P
  probe : ∀ s readiness, P s → ∃ cause, ((p.probe d readiness).run s).1 = .error cause
  onReady : ∀ b s, W b → P s → ∃ left, ((p.onReady b).run s).1 = (.error e, left) ∧ W left
  frame : e.isResource = false
  afterError : ∀ b, W b → p.afterError b = .handled

/-- The watcher of `d` is called in an iteration, and the call fails for one frame. -/
def FailsIn (d : Nat) (e : LinkError) (xs : List (Encounter σ β)) : Prop :=
  ∃ x ∈ xs, x.watcher.descriptor = d ∧ ∃ left, x.fate = .answered (.error e) left

theorem frameErrors_le_tally {v : Visit β} {visits : List (Visit β)} (hv : v ∈ visits) :
    v.2.credit.frameErrors ≤ (tally visits).frameErrors := by
  induction visits with
  | nil => cases hv
  | cons v' visits ih =>
    have hcons : (tally (v' :: visits)).frameErrors =
        v'.2.credit.frameErrors + (tally visits).frameErrors := rfl
    rcases List.mem_cons.mp hv with rfl | hv
    · omega
    · have := ih hv
      omega

/-- An iteration with such a call counts it. -/
theorem Iterated.frameErrors_lt (h : Iterated p r s xs r' s') (hb : FailsIn d e xs)
    (he : e.isResource = false) : r.stats.frameErrors + 1 ≤ r'.stats.frameErrors := by
  obtain ⟨x, hx, -, left, hf⟩ := hb
  have hcredit : x.visit.2.credit.frameErrors = 1 := by simp [Encounter.visit, hf, Fate.credit, he]
  have hle : 1 ≤ (tally (visitsOf xs)).frameErrors :=
    hcredit ▸ frameErrors_le_tally (List.mem_map.mpr ⟨x, hx, rfl⟩)
  rw [h.stats]
  simp only [Stats.plus]
  omega

namespace Unaware

variable (hu : Unaware p P W d e)

include hu

/-- The probe after a failed call fails as well. -/
theorem probeFails (hd : x.watcher.descriptor = d) (hf : x.fate = .answered (.error e) left)
    (hleft : W left) (hs : P x.after) : ∃ cause, x.ProbeFails p P cause := by
  have hreport := hu.abides.report (frameFailed x.watcher e) _ hs
  obtain ⟨cause, hcause⟩ := hu.probe _ x.watcher.readiness hreport
  have hprobe := hu.abides.probe d x.watcher.readiness _ hreport
  refine ⟨cause, .excused hf hu.frame (hu.afterError left hleft) (Prod.ext ?_ rfl) ?_⟩
  · rw [hd]
    exact hcause
  · rw [hd]
    exact hprobe

/-- A turn that finds such a watcher ready calls its worker, who fails, and the watcher is armed. -/
theorem turn_ready (hs : P s) (hl : (w, some (.ok ())) ∈ ((lookAll p r.watchers).run s).1)
    (hd : w.descriptor = d) (hworker : W w.worker) (hstop : p.stopRequested s = false) :
    ∃ xs r' s', r.iteration? p s = some xs ∧ (r.turn p).run s = (.next r', s') ∧ P s' ∧
      (∃ w' ∈ r'.watchers, Armed W d w') ∧ FailsIn d e xs ∧
      r.stats.frameErrors + 1 ≤ r'.stats.frameErrors := by
  have hx : ∃ xs, r.iteration? p s = some xs := by
    refine ⟨_, if_pos ⟨hstop, fun hnil => ?_, List.any_eq_true.mpr ⟨_, hl, rfl⟩⟩⟩
    rw [hnil] at hl
    cases hl
  obtain ⟨xs, hx⟩ := hx
  obtain ⟨r', s', ht, hiterated⟩ := Run.turn_iterated hx
  obtain ⟨looked, s₁, hserving⟩ := Run.serving hx
  rw [← hiterated.looked] at hl
  obtain ⟨x, hmem, hlook⟩ := List.mem_map.mp hl
  obtain ⟨rfl, hlook⟩ := Prod.mk.inj hlook
  -- The dead descriptor is still dead when the loop comes to its watcher.
  have hbefore : P x.before := by
    have hs₁ := hu.abides.lookAll r.watchers s hs
    rw [hserving.look] at hs₁
    exact meetAll_before hu.abides (hserving.met ▸ hmem) hs₁
  cases hf : x.fate with
  | waited => simp [hf, Fate.look] at hlook
  | failed cause => simp [hf, Fate.look] at hlook
  | answered answer left =>
    have hrun := meetAll_run (hserving.met ▸ hmem) hf
    obtain ⟨left', hfailed, hleft⟩ := hu.onReady _ _ hworker hbefore
    rw [hrun] at hfailed
    obtain ⟨rfl, rfl⟩ := Prod.mk.inj hfailed
    have hafter := hu.abides.onReady x.watcher.worker _ hbefore
    rw [hrun] at hafter
    obtain ⟨cause, hfails⟩ := hu.probeFails hd hf hleft hafter
    obtain ⟨hstays, hs'⟩ := hserving.armed hu.abides ht hmem hfails hf
    have hfailsIn : FailsIn d e xs := ⟨x, hmem, hd, left, hf⟩
    exact ⟨xs, r', s', hx, ht, hs',
      ⟨_, hstays, hd, hleft, rfl, hiterated.resumeAt_eq_none hmem hf⟩, hfailsIn,
      hiterated.frameErrors_lt hfailsIn hu.frame⟩

/-- A turn that is not kept from it calls an armed worker, who fails, and the watcher stays
armed. -/
theorem turn (hs : P s) (hw : w ∈ r.watchers) (ha : Armed W d w)
    (hstop : p.stopRequested s = false) : ∃ xs r' s', r.iteration? p s = some xs ∧
      (r.turn p).run s = (.next r', s') ∧ P s' ∧ (∃ w' ∈ r'.watchers, Armed W d w') ∧
      FailsIn d e xs ∧ r.stats.frameErrors + 1 ≤ r'.stats.frameErrors := by
  have hl : (w, some (.ok ())) ∈ ((lookAll p r.watchers).run s).1 :=
    mem_lookAll hw fun s => congrArg Prod.fst (look_armed ha.armed ha.resumeAt s)
  exact hu.turn_ready hs hl ha.descriptor ha.worker hstop

/-- Every turn of a run is an iteration that calls the armed worker, and the watcher stays. -/
theorem reaches (hs : P s) (hw : w ∈ r.watchers) (ha : Armed W d w)
    (h : Reaches p (r, s) n its (r', s')) : P s' ∧ (∃ w' ∈ r'.watchers, Armed W d w') ∧
      its.length = n ∧ (∀ xs ∈ its, FailsIn d e xs) ∧
      r.stats.frameErrors + n ≤ r'.stats.frameErrors := by
  generalize hc' : (r', s') = c' at h
  induction h generalizing r' s' with
  | start =>
    cases hc'
    exact ⟨hs, ⟨w, hw, ha⟩, rfl, by simp, Nat.le_refl _⟩
  | @turn n its r₁ r₂ s₁ s₂ h ht ih =>
    cases hc'
    obtain ⟨hs₁, ⟨w₁, hw₁, ha₁⟩, hlength, hall, hcount⟩ := ih rfl
    have hstop : p.stopRequested s₁ = false := by
      refine Bool.eq_false_iff.mpr fun hstop => ?_
      rw [Run.turn_stopped r₁ hstop] at ht
      cases ht
    obtain ⟨xs, r₃, s₃, hx, ht₃, hs₃, hstays, hfailsIn, hone⟩ := hu.turn hs₁ hw₁ ha₁ hstop
    cases ht.symm.trans ht₃
    refine ⟨hs₃, hstays, by simp [hx, hlength], fun ys hys => ?_, by omega⟩
    rw [hx, Option.toList_some, List.mem_append, List.mem_singleton] at hys
    rcases hys with hys | rfl
    · exact hall ys hys
    · exact hfailsIn

/-- Only a request to stop ends the run. -/
theorem stopped (hs : P s) (hw : w ∈ r.watchers) (ha : Armed W d w)
    (h : Reaches p (r, s) n its (r', s')) {ending : Ending}
    (ht : (r'.turn p).run s' = (.ended ending ws, s₁)) : p.stopRequested s' = true := by
  obtain ⟨hs', ⟨w', hw', ha'⟩, -⟩ := hu.reaches hs hw ha h
  by_contra hstop
  obtain ⟨-, r₁, s₂, -, ht₁, -⟩ := hu.turn hs' hw' ha' (Bool.eq_false_iff.mpr hstop)
  cases ht.symm.trans ht₁

end Unaware

/-! ## Being gone -/

/-- From `c` on, whoever watches `d` is gone as soon as it has been called. -/
def GoneWhenCalled (p : Platform σ β) (d : Nat) (c : Run β × σ) : Prop :=
  ∀ n its c', Reaches p c n its c' →
    (∃ xs ∈ its, ∃ x ∈ xs, x.watcher.descriptor = d ∧ x.fate.isCalled = true) →
      d ∉ c'.1.watchers.map (·.descriptor)

/-- Nobody comes back. -/
theorem goneWhenCalled_of_not_mem {c : Run β × σ} (hd : d ∉ c.1.watchers.map (·.descriptor)) :
    GoneWhenCalled p d c :=
  fun _ _ _ h _ hmem => hd (h.descriptors_sublist.subset hmem)

/-- An armed worker that does not find out is not gone when it has been called. -/
theorem Unaware.not_goneWhenCalled (hu : Unaware p P W d e) (hs : P s) (hw : w ∈ r.watchers)
    (ha : Armed W d w) (hstop : p.stopRequested s = false) : ¬ GoneWhenCalled p d (r, s) := by
  intro hgone
  obtain ⟨xs, r', s', hx, ht, -, ⟨w', hw', ha'⟩, ⟨x, hmem, hd, left, hf⟩, -⟩ :=
    hu.turn hs hw ha hstop
  have hcalled : ∃ ys ∈ [] ++ (r.iteration? p s).toList, ∃ y ∈ ys,
      y.watcher.descriptor = d ∧ y.fate.isCalled = true := by
    rw [hx]
    exact ⟨xs, by simp, x, hmem, hd, by rw [hf]; rfl⟩
  have hstart : Reaches p (r, s) 0 [] (r, s) := .start
  exact hgone _ _ _ (hstart.turn ht) hcalled (List.mem_map.mpr ⟨w', hw', ha'.descriptor⟩)

end PacketLink.Reactor
