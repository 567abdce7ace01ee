import PacketLink.Proofs.Reactor.History

/-!
# What holds of every call

* `Upholds p I Q`: a call of a worker of which `I` holds leaves the worker so, and `Q` holds of the
  call.
* `run_upholds`: if it does, `Q` holds of all calls in a run of such workers.

Looking, scheduling and waiting leave workers as they are, so only serving matters.
-/

namespace PacketLink.Reactor

variable {σ β : Type}

/-- A call of a worker of which `I` holds leaves the worker so, and `Q` holds of the call. -/
def Upholds (p : Platform σ β) (I : β → Prop) (Q : Called β → Prop) : Prop :=
  ∀ b s answer left s', I b → (p.onReady b).run s = ((answer, left), s') →
    I left ∧ Q ⟨b, answer, left⟩

variable {p : Platform σ β} {I : β → Prop} {Q : Called β → Prop} {w w' : Watcher β}

/-- `I` holds of the workers of these watchers, and `Q` of the calls on the list. -/
structure Upheld (I : β → Prop) (Q : Called β → Prop) (ws : List (Watcher β))
    (calls : List (Called β)) : Prop where
  workers : ∀ w ∈ ws, I w.worker
  calls : ∀ c ∈ calls, Q c

variable {s : σ × List (Called β)}

theorem schedule_upheld {dispatch : Dispatch} (hw : I w.worker) (hs : ∀ c ∈ s.2, Q c) :
    I ((schedule p.logged w dispatch).run s).1.worker ∧
      ∀ c ∈ ((schedule p.logged w dispatch).run s).2.2, Q c := by
  rw [(schedule_scheduled p w dispatch s).same.worker, schedule_keeps p w dispatch s]
  exact ⟨hw, hs⟩

theorem serve_upheld (hu : Upholds p I Q) (stats : Stats) {l : Looked β} (hl : I l.1.worker)
    (hs : ∀ c ∈ s.2, Q c) : I ((serve p.logged stats l).run s).1.1.1.worker ∧
      ∀ c ∈ ((serve p.logged stats l).run s).2.2, Q c := by
  obtain ⟨w, found⟩ := l
  obtain _ | cause | ⟨⟨⟩⟩ := found
  · exact ⟨hl, hs⟩
  · exact ⟨hl, hs⟩
  · obtain ⟨⟨⟨answer, left⟩, s'⟩, ha⟩ : ∃ t, (p.onReady w.worker).run s.1 = t := ⟨_, rfl⟩
    obtain ⟨hleft, hcall⟩ := hu _ _ _ _ _ hl ha
    have hs' : ∀ c ∈ s.2 ++ [⟨w.worker, answer, left⟩], Q c := by
      intro c hc
      rcases List.mem_append.mp hc with hc | hc
      · exact hs c hc
      · rwa [List.mem_singleton.mp hc]
    simp only [serve, run_bind]
    rw [onReady_run p ha]
    cases answer with
    | ok dispatch => exact schedule_upheld (w := { w with worker := left }) hleft hs'
    | error e =>
      cases he : e.isResource with
      | true =>
        simp only [he, if_true, run_bind, run_pure]
        exact ⟨hleft, hs'⟩
      | false =>
        simp only [he, Bool.false_eq_true, if_false, run_bind]
        exact schedule_upheld (w := { w with worker := left }) hleft hs'

theorem serveAll_upheld (hu : Upholds p I Q) (stats : Stats) {looked : List (Looked β)}
    (hl : ∀ l ∈ looked, I l.1.worker) (hs : ∀ c ∈ s.2, Q c) :
    (∀ x ∈ ((serveAll p.logged stats looked).run s).1.1, I x.1.worker) ∧
      ∀ c ∈ ((serveAll p.logged stats looked).run s).2.2, Q c := by
  induction looked generalizing stats s with
  | nil => exact ⟨nofun, hs⟩
  | cons l looked ih =>
    rw [List.forall_mem_cons] at hl
    obtain ⟨hfirst, hs'⟩ := serve_upheld hu stats hl.1 hs
    obtain ⟨hothers, hs''⟩ := ih ((serve p.logged stats l).run s).1.2 hl.2 hs'
    exact ⟨List.forall_mem_cons.mpr ⟨hfirst, hothers⟩, hs''⟩

theorem Run.iterate_upheld (hu : Upholds p I Q) (r : Run β) {looked : List (Looked β)}
    (hl : ∀ l ∈ looked, I l.1.worker) (hs : ∀ c ∈ s.2, Q c) :
    Upheld I Q ((r.iterate p.logged looked).run s).1.watchers
      ((r.iterate p.logged looked).run s).2.2 := by
  obtain ⟨hserved, hs'⟩ :=
    serveAll_upheld hu { r.stats with iterations := r.stats.iterations + 1 } hl hs
  simp only [iterate, run_bind, run_pure]
  refine ⟨fun w hw => ?_, ?_⟩
  · obtain ⟨x, hx, hsome⟩ := List.mem_filterMap.mp hw
    obtain ⟨w', failure⟩ := x
    have := hserved _ hx
    cases failure with
    | none =>
      cases hsome
      exact this
    | some e => cases hsome
  · rw [reportRemoved_keeps p _ _]
    exact hs'

theorem lookAll_upheld {ws : List (Watcher β)} (hw : ∀ w ∈ ws, I w.worker) :
    ∀ l ∈ ((lookAll p.logged ws).run s).1, I l.1.worker :=
  forall_mem_of_forall₂ (lookAll_same p.logged ws s) (fun hsame hi => by rwa [hsame.worker]) hw

theorem Upheld.collected {ws ws' : List (Watcher β)} {calls : List (Called β)}
    (h : Upheld I Q ws calls) (hc : List.Forall₂ Collected ws ws') : Upheld I Q ws' calls :=
  ⟨forall_mem_of_forall₂ hc (fun hsame hi => by rwa [hsame.same.worker]) h.workers, h.calls⟩

theorem Run.wait_upheld {r : Run β} (h : Upheld I Q r.watchers s.2) :
    Upheld I Q ((r.wait p.logged).run s).1.watchers ((r.wait p.logged).run s).2.2 := by
  rw [Run.wait_keeps p r s]
  rcases Run.wait_run p.logged r s with ⟨ending, hended⟩ | ⟨ws, hnext, hcollected⟩
  · rw [hended]
    exact h
  · rw [hnext]
    exact h.collected hcollected

theorem Run.turn_upheld (hu : Upholds p I Q) {r : Run β} (h : Upheld I Q r.watchers s.2) :
    Upheld I Q ((r.turn p.logged).run s).1.watchers ((r.turn p.logged).run s).2.2 := by
  cases hstop : p.logged.stopRequested s with
  | true =>
    rw [turn_stopped r hstop]
    exact h
  | false =>
    cases hne : r.watchers.isEmpty with
    | true =>
      rw [turn_deserted hstop (List.isEmpty_iff.mp hne)]
      exact ⟨fun w hw => (List.not_mem_nil hw).elim, h.calls⟩
    | false =>
      obtain ⟨⟨looked, s₁⟩, hl⟩ : ∃ t, (lookAll p.logged r.watchers).run s = t := ⟨_, rfl⟩
      have hlooked := lookAll_upheld (p := p) (s := s) h.workers
      have hcalls := lookAll_keeps p r.watchers s
      rw [hl] at hlooked hcalls
      have hs₁ : ∀ c ∈ s₁.2, Q c := hcalls ▸ h.calls
      rw [turn_run r s hstop hne hl]
      split
      · exact Run.iterate_upheld hu _ hlooked hs₁
      · refine Run.wait_upheld ⟨fun w hw => ?_, hs₁⟩
        obtain ⟨l, hm, rfl⟩ := List.mem_map.mp hw
        exact hlooked l hm

theorem Run.loop_upheld (hu : Upholds p I Q) (fuel : Nat) {r : Run β}
    (h : Upheld I Q r.watchers s.2) : Upheld I Q ((Run.loop p.logged fuel r).run s).1.2
      ((Run.loop p.logged fuel r).run s).2.2 := by
  induction fuel generalizing r s with
  | zero => exact h
  | succ fuel ih =>
    have hturn := Run.turn_upheld hu h
    rw [loop, run_bind]
    generalize (r.turn p.logged).run s = turned at hturn ⊢
    obtain ⟨t, s'⟩ := turned
    cases t with
    | ended ending ws => exact hturn
    | next r' => exact ih hturn

/-- What every call of a worker upholds holds of all calls in a run. -/
theorem run_upholds (hu : Upholds p I Q) (fuel : Nat) {ws : List (Watcher β)}
    (hw : ∀ w ∈ ws, I w.worker) (s : σ) :
    ∀ c ∈ ((Reactor.run p.logged fuel ws).run (s, [])).2.2, Q c :=
  (Run.loop_upheld (s := (s, [])) hu fuel (r := { watchers := ws }) ⟨hw, nofun⟩).calls

end PacketLink.Reactor
