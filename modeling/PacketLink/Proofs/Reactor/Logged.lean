import PacketLink.Proofs.Computation
import PacketLink.Reactor.Basic

/-!
# A loop that keeps a list of its calls

* `Platform.logged p`: the surroundings `p` with a list beside them to which every call of a worker
  is added.
* `Erases act' act`: beside its list, `act'` does what `act` does. The loop in logged surroundings
  does what it does without the list (`Run.loop_erases`).
-/

namespace PacketLink.Reactor

variable {σ β γ α δ : Type}

/-- A call of a worker: the worker, what it answered, and how the call left it. -/
structure Called (β : Type) where
  worker : β
  answer : Except LinkError Dispatch
  left : β

/-- Surroundings in which every call of a worker is added to a list. -/
def Platform.logged (p : Platform σ β) : Platform (σ × List (Called β)) β where
  now s := p.now s.1
  stopRequested s := p.stopRequested s.1
  probe d r := beside (p.probe d r)
  onReady b := fun s =>
    let ((answer, left), s') := (p.onReady b).run s.1
    ((answer, left), (s', s.2 ++ [⟨b, answer, left⟩]))
  afterError := p.afterError
  report e := beside (p.report e)
  interruption := beside p.interruption
  collect d r := beside (p.collect d r)
  sleep resume := beside (p.sleep resume)

/-! ## Without the list -/

/-- Beside its list, `act'` does what `act` does. -/
def Erases (act' : StateM (σ × γ) α) (act : StateM σ α) : Prop :=
  ∀ s, (act'.run s).1 = (act.run s.1).1 ∧ (act'.run s).2.1 = (act.run s.1).2

namespace Erases

theorem pure (a : α) : Erases (pure a : StateM (σ × γ) α) (pure a) := fun _ => ⟨rfl, rfl⟩

theorem beside (act : StateM σ α) : Erases (beside act : StateM (σ × γ) α) act :=
  fun _ => ⟨rfl, rfl⟩

theorem bind {act' : StateM (σ × γ) α} {act : StateM σ α} {next' : α → StateM (σ × γ) δ}
    {next : α → StateM σ δ} (ha : Erases act' act) (hn : ∀ a, Erases (next' a) (next a)) :
    Erases (act' >>= next') (act >>= next) := by
  intro s
  obtain ⟨hval, hstate⟩ := ha s
  rw [run_bind, run_bind, hval, ← hstate]
  exact hn _ _

theorem get {next' : σ × γ → StateM (σ × γ) δ} {next : σ → StateM σ δ}
    (hn : ∀ s, Erases (next' s) (next s.1)) :
    Erases (MonadState.get >>= next') (MonadState.get >>= next) := fun s => hn s s

theorem ite {c : Prop} [Decidable c] {act' other' : StateM (σ × γ) α} {act other : StateM σ α}
    (ha : Erases act' act) (ho : Erases other' other) :
    Erases (if c then act' else other') (if c then act else other) := by
  split
  · exact ha
  · exact ho

end Erases

variable (p : Platform σ β)

theorem onReady_erases (b : β) : Erases (p.logged.onReady b) (p.onReady b) := fun _ => ⟨rfl, rfl⟩

theorem look_erases (w : Watcher β) : Erases (look p.logged w) (look p w) := by
  unfold look
  split
  · exact .pure _
  · refine .get fun s => .ite (.pure _) ((Erases.beside _).bind fun outcome => ?_)
    cases outcome <;> exact .pure _

theorem lookAll_erases (ws : List (Watcher β)) : Erases (lookAll p.logged ws) (lookAll p ws) := by
  induction ws with
  | nil => exact .pure _
  | cons w ws ih => exact (look_erases p w).bind fun _ => ih.bind fun _ => .pure _

theorem schedule_erases (w : Watcher β) (dispatch : Dispatch) :
    Erases (schedule p.logged w dispatch) (schedule p w dispatch) := by
  cases dispatch with
  | idle => exact .pure _
  | pause milliseconds => exact .get fun s => .pure _
  | handled =>
    refine (Erases.beside _).bind fun outcome => ?_
    cases outcome with
    | ok level => exact .pure _
    | error e => exact (Erases.beside _).bind fun _ => .pure _

theorem serve_erases (stats : Stats) (l : Looked β) :
    Erases (serve p.logged stats l) (serve p stats l) := by
  match l with
  | (w, none) => exact .pure _
  | (w, some (.error e)) => exact (Erases.beside _).bind fun _ => .pure _
  | (w, some (.ok ())) =>
    refine (onReady_erases p w.worker).bind fun ⟨answer, worker⟩ => ?_
    cases answer with
    | ok dispatch => exact (schedule_erases p _ _).bind fun _ => .pure _
    | error e =>
      exact .ite ((Erases.beside _).bind fun _ => .pure _)
        ((Erases.beside _).bind fun _ => (schedule_erases p _ _).bind fun _ => .pure _)

theorem serveAll_erases (stats : Stats) (looked : List (Looked β)) :
    Erases (serveAll p.logged stats looked) (serveAll p stats looked) := by
  induction looked generalizing stats with
  | nil => exact .pure _
  | cons l looked ih => exact (serve_erases p stats l).bind fun _ => (ih _).bind fun _ => .pure _

theorem reportRemoved_erases (served : List (Served β)) :
    Erases (reportRemoved p.logged served) (reportRemoved p served) := by
  induction served with
  | nil => exact .pure _
  | cons x served ih =>
    obtain ⟨w, failure⟩ := x
    refine ih.bind fun _ => ?_
    cases failure with
    | none => exact .pure _
    | some e => exact .beside _

theorem collectAll_erases (ws : List (Watcher β)) :
    Erases (collectAll p.logged ws) (collectAll p ws) := by
  induction ws with
  | nil => exact .pure _
  | cons w ws ih => exact (Erases.beside _).bind fun _ => ih.bind fun _ => .pure _

theorem Run.wait_erases (r : Run β) : Erases (r.wait p.logged) (r.wait p) := by
  refine (Erases.beside _).bind fun interruption => ?_
  match interruption with
  | some .stop => exact .pure _
  | some .abandon => exact .pure _
  | none =>
    exact (collectAll_erases p _).bind fun ws =>
      .ite ((Erases.beside _).bind fun _ => .pure _) (.pure _)

theorem Run.iterate_erases (r : Run β) (looked : List (Looked β)) :
    Erases (r.iterate p.logged looked) (r.iterate p looked) :=
  (serveAll_erases p _ looked).bind fun _ => (reportRemoved_erases p _).bind fun _ => .pure _

theorem Run.turn_erases (r : Run β) : Erases (r.turn p.logged) (r.turn p) := by
  refine .get fun s => .ite (.pure _) (.ite (.pure _) ?_)
  exact (lookAll_erases p r.watchers).bind fun looked =>
    .ite ((Run.iterate_erases p _ looked).bind fun _ => .pure _) (Run.wait_erases p _)

/-- The list changes nothing in a run. -/
theorem Run.loop_erases (fuel : Nat) (r : Run β) :
    Erases (Run.loop p.logged fuel r) (Run.loop p fuel r) := by
  induction fuel generalizing r with
  | zero => exact .pure _
  | succ fuel ih =>
    refine (Run.turn_erases p r).bind fun t => ?_
    cases t with
    | ended ending ws => exact .pure _
    | next r' => exact ih r'

/-! ## The list -/

theorem onReady_run {b left : β} {answer : Except LinkError Dispatch} {s : σ × List (Called β)}
    {s' : σ} (h : (p.onReady b).run s.1 = ((answer, left), s')) :
    (p.logged.onReady b).run s = ((answer, left), (s', s.2 ++ [⟨b, answer, left⟩])) :=
  congrArg (fun t : (Except LinkError Dispatch × β) × σ =>
    ((t.1.1, t.1.2), (t.2, s.2 ++ [Called.mk b t.1.1 t.1.2]))) h

theorem beside_run {act : StateM σ α} {s s' : σ} {a : α} (h : act.run s = (a, s')) (kept : γ) :
    (beside act).run (s, kept) = (a, (s', kept)) :=
  congrArg (fun t : α × σ => (t.1, (t.2, kept))) h

theorem beside_keeps (act : StateM σ α) : Keeps Prod.snd (beside act : StateM (σ × γ) α) :=
  fun _ => rfl

theorem look_keeps (w : Watcher β) : Keeps Prod.snd (look p.logged w) := by
  unfold look
  split
  · exact .pure _
  · refine Keeps.get.bind fun s => ?_
    split
    · exact .pure _
    · refine (beside_keeps _).bind fun outcome => ?_
      cases outcome <;> exact .pure _

theorem lookAll_keeps (ws : List (Watcher β)) : Keeps Prod.snd (lookAll p.logged ws) := by
  induction ws with
  | nil => exact .pure _
  | cons w ws ih => exact (look_keeps p w).bind fun _ => ih.bind fun _ => .pure _

theorem schedule_keeps (w : Watcher β) (dispatch : Dispatch) :
    Keeps Prod.snd (schedule p.logged w dispatch) := by
  cases dispatch with
  | idle => exact .pure _
  | pause milliseconds => exact Keeps.get.bind fun s => .pure _
  | handled =>
    refine (beside_keeps _).bind fun outcome => ?_
    cases outcome with
    | ok level => exact .pure _
    | error e => exact (beside_keeps _).bind fun _ => .pure _

theorem reportRemoved_keeps (served : List (Served β)) :
    Keeps Prod.snd (reportRemoved p.logged served) := by
  induction served with
  | nil => exact .pure _
  | cons x served ih =>
    obtain ⟨w, failure⟩ := x
    refine ih.bind fun _ => ?_
    cases failure with
    | none => exact .pure _
    | some e => exact beside_keeps _

theorem collectAll_keeps (ws : List (Watcher β)) : Keeps Prod.snd (collectAll p.logged ws) := by
  induction ws with
  | nil => exact .pure _
  | cons w ws ih => exact (beside_keeps _).bind fun _ => ih.bind fun _ => .pure _

theorem Run.wait_keeps (r : Run β) : Keeps Prod.snd (r.wait p.logged) := by
  refine (beside_keeps _).bind fun interruption => ?_
  match interruption with
  | some .stop => exact .pure _
  | some .abandon => exact .pure _
  | none =>
    refine (collectAll_keeps p _).bind fun ws => ?_
    dsimp only
    split
    · exact (beside_keeps _).bind fun _ => .pure _
    · exact .pure _

end PacketLink.Reactor
