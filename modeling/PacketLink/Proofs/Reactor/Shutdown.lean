import PacketLink.Proofs.Reactor.Turns

/-!
# Requests that wait for the loop

Whoever asks the loop to stop runs only while it waits. Until then the request is not noticed.

* `Abides p P`: what `P` says stays true while the loop looks and serves.
* `Unheard p P`: `P` says that a request waits. Looking and serving leave it waiting, and waiting
  notices it.
* `Run.isReady`: the next turn is an iteration, as somebody is left and ready.
* `Streak p n c c'`: from `c` to `c'` there are `n` turns, and each of them is an iteration.
* `Streak.exists_succ` and `Streak.loop_run`: as long as somebody is ready the loop goes on, and it
  ends once nobody is.
-/

namespace PacketLink.Reactor

variable {σ β : Type} {p : Platform σ β} {P : σ → Prop} {r r' : Run β} {s s' : σ}

/-- What `P` says stays true while the loop looks at watchers and serves them. -/
structure Abides (p : Platform σ β) (P : σ → Prop) : Prop where
  probe : ∀ d readiness, Stays P (p.probe d readiness)
  onReady : ∀ b, Stays P (p.onReady b)
  report : ∀ e, Stays P (p.report e)

namespace Abides

variable (hp : Abides p P)

include hp

theorem look (w : Watcher β) : Stays P (look p w) := by
  unfold Reactor.look
  split
  · exact .pure _
  · refine Stays.get.bind fun s => ?_
    split
    · exact .pure _
    · refine (hp.probe _ _).bind fun outcome => ?_
      cases outcome with
      | error e => exact .pure _
      | ok level => exact .pure _

theorem lookAll (ws : List (Watcher β)) : Stays P (lookAll p ws) := by
  induction ws with
  | nil => exact .pure _
  | cons w ws ih => exact (hp.look w).bind fun _ => ih.bind fun _ => .pure _

theorem schedule (w : Watcher β) (dispatch : Dispatch) : Stays P (schedule p w dispatch) := by
  cases dispatch with
  | idle => exact .pure _
  | pause milliseconds => exact Stays.get.bind fun _ => .pure _
  | handled =>
    refine (hp.probe _ _).bind fun outcome => ?_
    cases outcome with
    | error e => exact (hp.report _).bind fun _ => .pure _
    | ok level => exact .pure _

/-- What follows when a worker has answered. -/
theorem afterCall (stats : Stats) (w : Watcher β) (hs : P ((p.onReady w.worker).run s).2) :
    P ((Reactor.serve p stats (w, some (.ok ()))).run s).2 := by
  simp only [Reactor.serve, run_bind]
  cases ((p.onReady w.worker).run s).1.1 with
  | ok dispatch => exact ((hp.schedule _ dispatch).bind fun _ => .pure _) _ hs
  | error e =>
    dsimp only
    split
    · exact ((hp.report _).bind fun _ => .pure _) _ hs
    · exact ((hp.report _).bind fun _ => (hp.schedule _ _).bind fun _ => .pure _) _ hs

theorem serve (stats : Stats) (l : Looked β) : Stays P (serve p stats l) := by
  obtain ⟨w, _ | e | ⟨⟨⟩⟩⟩ := l
  · exact .pure _
  · exact (hp.report _).bind fun _ => .pure _
  · exact fun s hs => hp.afterCall stats w (hp.onReady _ s hs)

theorem serveAll (stats : Stats) (looked : List (Looked β)) :
    Stays P (serveAll p stats looked) := by
  induction looked generalizing stats with
  | nil => exact .pure _
  | cons l looked ih => exact (hp.serve stats l).bind fun _ => (ih _).bind fun _ => .pure _

theorem reportRemoved (served : List (Served β)) : Stays P (reportRemoved p served) := by
  induction served with
  | nil => exact .pure _
  | cons x served ih =>
    refine ih.bind fun _ => ?_
    split
    · exact hp.report _
    · exact .pure _

theorem iterate (r : Run β) (looked : List (Looked β)) : Stays P (r.iterate p looked) :=
  (hp.serveAll _ looked).bind fun a => (hp.reportRemoved a.1).bind fun _ => .pure _

end Abides

/-- `P` says that somebody has asked the loop to stop, and that it has not noticed. -/
structure Unheard (p : Platform σ β) (P : σ → Prop) : Prop where
  running : ∀ s, P s → p.stopRequested s = false
  probe : ∀ d readiness, Stays P (p.probe d readiness)
  onReady : ∀ b, Stays P (p.onReady b)
  report : ∀ e, Stays P (p.report e)
  interruption : ∀ s, P s → (p.interruption.run s).1 = some .stop

/-- A request that waits goes on waiting. -/
theorem Unheard.abides (hp : Unheard p P) : Abides p P := ⟨hp.probe, hp.onReady, hp.report⟩

/-! ## The count of iterations -/

theorem serve_iterations (stats : Stats) (l : Looked β) :
    Gives (fun a => a.2.iterations = stats.iterations) (serve p stats l) := by
  obtain ⟨w, _ | e | ⟨⟨⟩⟩⟩ := l
  · exact .pure rfl
  · exact .then fun _ => .pure rfl
  · refine .then fun ⟨answer, worker⟩ => ?_
    cases answer with
    | ok dispatch =>
      refine .then fun _ => .pure ?_
      cases dispatch <;> rfl
    | error e =>
      dsimp only
      split
      · exact .then fun _ => .pure rfl
      · exact .then fun _ => .then fun _ => .pure rfl

theorem serveAll_iterations (stats : Stats) (looked : List (Looked β)) :
    Gives (fun a => a.2.iterations = stats.iterations) (serveAll p stats looked) := by
  induction looked generalizing stats with
  | nil => exact .pure rfl
  | cons l looked ih =>
    refine (serve_iterations stats l).bind fun a ha => (ih a.2).bind fun b hb => .pure ?_
    exact hb.trans ha

theorem Run.iterate_iterations (r : Run β) (looked : List (Looked β)) :
    Gives (fun r' => r'.stats.iterations = r.stats.iterations + 1) (r.iterate p looked) :=
  (serveAll_iterations _ looked).bind fun _ ha => .then fun _ => .pure ha

/-! ## Turns from a request on -/

/-- Whether the next turn is an iteration, if the loop is not asked to stop: somebody is left and
ready. -/
def Run.isReady (p : Platform σ β) (r : Run β) (s : σ) : Bool :=
  !r.watchers.isEmpty && ((lookAll p r.watchers).run s).1.any fun l => l.2.isSome

theorem Run.turn_ready (hp : Unheard p P) (hs : P s) (hr : r.isReady p s = true) :
    ∃ r' s', (r.turn p).run s = (.next r', s') ∧ P s' ∧
      r'.stats.iterations = r.stats.iterations + 1 := by
  obtain ⟨⟨looked, s₁⟩, hl⟩ : ∃ t, (lookAll p r.watchers).run s = t := ⟨_, rfl⟩
  simp only [isReady, hl, Bool.and_eq_true, Bool.not_eq_true'] at hr
  have hs₁ : P s₁ := by
    have := hp.abides.lookAll r.watchers s hs
    rwa [hl] at this
  rw [turn_run r s (hp.running s hs) hr.1 hl, if_pos hr.2]
  exact ⟨_, _, rfl, hp.abides.iterate _ looked s₁ hs₁, iterate_iterations _ looked s₁⟩

theorem Run.turn_not_ready (hp : Unheard p P) (hs : P s) (hr : r.isReady p s = false) :
    ∃ ws s', (r.turn p).run s = (.ended r.upshot ws, s') := by
  cases hne : r.watchers with
  | nil =>
    exact ⟨[], s, turn_deserted (hp.running s hs) hne⟩
  | cons w ws =>
    have hempty : r.watchers.isEmpty = false := by rw [hne]; rfl
    obtain ⟨⟨looked, s₁⟩, hl⟩ : ∃ t, (lookAll p r.watchers).run s = t := ⟨_, rfl⟩
    simp only [isReady, hl, hempty, Bool.not_false, Bool.true_and] at hr
    have hs₁ : P s₁ := by
      have := hp.abides.lookAll r.watchers s hs
      rwa [hl] at this
    have hstop := hp.interruption s₁ hs₁
    rw [turn_run r s (hp.running s hs) hempty hl, hr, if_neg Bool.false_ne_true, wait, run_bind,
      hstop, upshot, hne]
    exact ⟨_, _, rfl⟩

/-- From `c` to `c'` there are `n` turns, and each of them is an iteration. -/
inductive Streak (p : Platform σ β) : Nat → Run β × σ → Run β × σ → Prop where
  | nil {c : Run β × σ} : Streak p 0 c c
  | snoc {n : Nat} {c : Run β × σ} {r r' : Run β} {s s' : σ} (h : Streak p n c (r, s))
      (hr : r.isReady p s = true) (ht : (r.turn p).run s = (.next r', s')) :
    Streak p (n + 1) c (r', s')

variable {n : Nat} {c : Run β × σ}

/-- The request is still not noticed, and the iterations were counted. -/
theorem Streak.unheard (hp : Unheard p P) (h : Streak p n (r, s) c) (hs : P s) :
    P c.2 ∧ c.1.stats.iterations = r.stats.iterations + n := by
  generalize hc : (r, s) = c₀ at h
  induction h with
  | nil =>
    subst hc
    exact ⟨hs, rfl⟩
  | snoc h hr ht ih =>
    obtain ⟨hs', hi⟩ := ih hc
    obtain ⟨r₁, s₁, ht', hs₁, hi₁⟩ := Run.turn_ready hp hs' hr
    cases ht.symm.trans ht'
    exact ⟨hs₁, by rw [hi₁, hi, Nat.add_assoc]⟩

/-- Whoever is ready gets another iteration. -/
theorem Streak.exists_succ (hp : Unheard p P) (h : Streak p n (r, s) c) (hs : P s)
    (hr : c.1.isReady p c.2 = true) : ∃ c', Streak p (n + 1) (r, s) c' := by
  obtain ⟨r', s', ht, -, -⟩ := Run.turn_ready hp (h.unheard hp hs).1 hr
  exact ⟨_, h.snoc hr ht⟩

theorem Streak.ready_of_lt {c₀ : Run β × σ} (h : Streak p n c₀ c) {m : Nat} (hm : m < n) :
    ∃ r' s', Streak p m c₀ (r', s') ∧ r'.isReady p s' = true := by
  induction h with
  | nil => cases hm
  | @snoc n _ r _ s _ h hr _ ih =>
    rcases Nat.lt_or_ge m n with hlt | hge
    · exact ih hlt
    · obtain rfl : m = n := by omega
      exact ⟨r, s, h, hr⟩

/-- There are more iterations than `n` exactly if somebody is ready after the `n`-th. -/
theorem Streak.le_iff (hp : Unheard p P) (hs : P s) (n : Nat) :
    (∀ m c, Streak p m (r, s) c → m ≤ n) ↔
      ∀ r' s', Streak p n (r, s) (r', s') → r'.isReady p s' = false := by
  constructor
  · intro hle r' s' h
    refine Bool.eq_false_iff.mpr fun hr => ?_
    obtain ⟨c', h'⟩ := h.exists_succ hp hs hr
    exact absurd (hle _ _ h') (by omega)
  · intro hnone m c h
    refine Nat.le_of_not_lt fun hlt => ?_
    obtain ⟨r', s', h', hr⟩ := h.ready_of_lt hlt
    rw [hnone r' s' h'] at hr
    cases hr

/-- The turns of a streak are turns of the loop. -/
theorem Streak.loop_eq (h : Streak p n (r, s) c) (fuel : Nat) :
    (Run.loop p (n + fuel) r).run s = (Run.loop p fuel c.1).run c.2 := by
  generalize hc : (r, s) = c₀ at h
  induction h generalizing fuel with
  | nil =>
    subst hc
    rw [Nat.zero_add]
  | @snoc n c r₁ r₂ s₁ s₂ h hr ht ih =>
    rw [Nat.add_assoc, Nat.add_comm 1 fuel, ih (fuel + 1) hc, Run.loop, run_bind, ht]

/-- Once nobody is ready the loop ends. -/
theorem Streak.loop_run (hp : Unheard p P) (h : Streak p n (r, s) c) (hs : P s)
    (hr : c.1.isReady p c.2 = false) {fuel : Nat} (hf : n < fuel) :
    ∃ ws s', (Run.loop p fuel r).run s = ((c.1.upshot, ws), s') := by
  obtain ⟨ws, s', ht⟩ := Run.turn_not_ready hp (h.unheard hp hs).1 hr
  refine ⟨ws, s', ?_⟩
  have hfuel : n + (fuel - n - 1 + 1) = fuel := by omega
  rw [← hfuel, h.loop_eq, Run.loop, run_bind, ht]
  rfl

end PacketLink.Reactor
