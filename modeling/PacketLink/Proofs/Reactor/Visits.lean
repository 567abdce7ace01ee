import Mathlib.Data.List.Forall2
import PacketLink.Proofs.Reactor.Logged
import PacketLink.Proofs.Reactor.Turns

/-!
# Visits

* `Visit`: a watcher with its `Fate` in an iteration: it was not ready, its wait failed, or its
  worker was called. `tally` is what visits are worth in the counters of a run.
* `Encounter`: a visit with the surroundings before and after it. `meetAll` lists the encounters of
  an iteration.
* `IsSame`, `Scheduled`, `Kept`: what becomes of a watcher and its schedule.
* `serveAll_serves`: the encounters are what serving comes to.
-/

namespace PacketLink.Reactor

variable {σ β δ : Type}

/-! ## Visits -/

/-- What became of a watcher in an iteration. -/
inductive Fate (β : Type) where
  /-- It was not ready. -/
  | waited
  /-- Waiting for its descriptor failed. -/
  | failed (cause : Errno)
  /-- Its worker was called, answered, and was left like this. -/
  | answered (answer : Except LinkError Dispatch) (left : β)

/-- A watcher, as it was after the look at it, with what became of it. -/
abbrev Visit (β : Type) := Watcher β × Fate β

namespace Fate

/-- What the look at the watcher had found. -/
def look : Fate β → Option (Except Errno Unit)
  | .waited => none
  | .failed cause => some (.error cause)
  | .answered _ _ => some (.ok ())

/-- The failure that removes the watcher. -/
def failure : Fate β → Option LinkError
  | .waited | .answered (.ok _) _ => none
  | .failed cause => some (.resource "readiness wait" cause)
  | .answered (.error e) _ => if e.isResource then some e else none

def isCalled : Fate β → Bool
  | .answered _ _ => true
  | .waited | .failed _ => false

def isFailed : Fate β → Bool
  | .failed _ => true
  | .waited | .answered _ _ => false

/-- What a visit is worth in the counters of a run. -/
def credit : Fate β → Stats
  | .waited => {}
  | .failed _ => { deregistered := 1 }
  | .answered (.ok dispatch) _ => ({ dispatched := 1 } : Stats).record dispatch
  | .answered (.error e) _ =>
    if e.isResource then { dispatched := 1, deregistered := 1 }
    else { dispatched := 1, frameErrors := 1 }

end Fate

/-- The call in a visit, if there is one. -/
def Visit.call? : Visit β → Option (Called β)
  | (w, .answered answer left) => some ⟨w.worker, answer, left⟩
  | (_, .waited) | (_, .failed _) => none

/-- Whether the watcher stays. -/
def Visit.stays (v : Visit β) : Bool := v.2.failure.isNone

/-- The counters of one run and another together. -/
def Stats.plus (a b : Stats) : Stats where
  iterations := a.iterations + b.iterations
  dispatched := a.dispatched + b.dispatched
  handled := a.handled + b.handled
  idle := a.idle + b.idle
  paused := a.paused + b.paused
  frameErrors := a.frameErrors + b.frameErrors
  deregistered := a.deregistered + b.deregistered

/-- What visits are worth in the counters of a run. -/
def tally (visits : List (Visit β)) : Stats := visits.foldr (fun v t => v.2.credit.plus t) {}

theorem Stats.plus_assoc (a b c : Stats) : (a.plus b).plus c = a.plus (b.plus c) := by
  simp only [plus, Nat.add_assoc]

theorem Stats.zero_plus (a : Stats) : ({} : Stats).plus a = a := by
  simp only [plus, Nat.zero_add]

theorem tally_append (visits visits' : List (Visit β)) :
    tally (visits ++ visits') = (tally visits).plus (tally visits') := by
  induction visits with
  | nil => exact (Stats.zero_plus _).symm
  | cons v visits ih =>
    rw [List.cons_append, tally, List.foldr_cons, ← tally, ih, ← Stats.plus_assoc]
    rfl

/-! ## Encounters -/

/-- A visit with the surroundings as the loop comes to the watcher, and as its worker leaves
them. -/
structure Encounter (σ β : Type) where
  watcher : Watcher β
  fate : Fate β
  before : σ
  after : σ

/-- An encounter without the surroundings. -/
def Encounter.visit (x : Encounter σ β) : Visit β := (x.watcher, x.fate)

/-- The visits of an iteration. -/
def visitsOf (xs : List (Encounter σ β)) : List (Visit β) := xs.map Encounter.visit

/-- The failure of the first watcher that an iteration removes. -/
def firstLoss (xs : List (Encounter σ β)) : Option LinkError := xs.findSome? fun x => x.fate.failure

/-- What the loop makes of a watcher that it has looked at. -/
def meet (p : Platform σ β) : Looked β → σ → Encounter σ β
  | (w, none), s => ⟨w, .waited, s, s⟩
  | (w, some (.error cause)), s => ⟨w, .failed cause, s, s⟩
  | (w, some (.ok ())), s =>
    ⟨w, .answered ((p.onReady w.worker).run s).1.1 ((p.onReady w.worker).run s).1.2, s,
      ((p.onReady w.worker).run s).2⟩

/-- The encounters of an iteration, each of them in the surroundings that serving the watchers
before it has left. -/
def meetAll (p : Platform σ β) : Stats → List (Looked β) → σ → List (Encounter σ β)
  | _, [], _ => []
  | stats, l :: rest, s =>
    meet p l s :: meetAll p ((serve p stats l).run s).1.2 rest ((serve p stats l).run s).2

/-! ## Schedules -/

/-- The watcher is the same: only its schedule may have changed. -/
structure IsSame (w w' : Watcher β) : Prop where
  label : w'.label = w.label
  descriptor : w'.descriptor = w.descriptor
  readiness : w'.readiness = w.readiness
  worker : w'.worker = w.worker

theorem IsSame.refl (w : Watcher β) : IsSame w w := ⟨rfl, rfl, rfl, rfl⟩

theorem IsSame.trans {w w' w'' : Watcher β} (h : IsSame w w') (h' : IsSame w' w'') :
    IsSame w w'' :=
  ⟨h'.label.trans h.label, h'.descriptor.trans h.descriptor, h'.readiness.trans h.readiness,
    h'.worker.trans h.worker⟩

/-- A watcher after an answer was put into effect in the surroundings `s`. -/
inductive Scheduled (p : Platform σ β) (s : σ) (w : Watcher β) : Dispatch → Watcher β → Prop where
  | idle : Scheduled p s w .idle { w with armed := false }
  | pause (milliseconds : Nat) : Scheduled p s w (.pause milliseconds)
      { w with armed := false, resumeAt := some (p.now s + milliseconds) }
  | handled (level : Bool) (hp : ((p.probe w.descriptor w.readiness).run s).1 = .ok level) :
    Scheduled p s w .handled { w with armed := level }
  /-- If the probe fails, its worker shall find out. -/
  | unprobed (cause : Errno) (hp : ((p.probe w.descriptor w.readiness).run s).1 = .error cause) :
    Scheduled p s w .handled { w with armed := true }

/-- How an encounter leaves a watcher that stays. -/
inductive Kept (p : Platform σ β) (x : Encounter σ β) : Watcher β → Prop where
  | waited (hf : x.fate = .waited) : Kept p x x.watcher
  | answered {w' : Watcher β} {dispatch : Dispatch} {left : β}
    (hf : x.fate = .answered (.ok dispatch) left)
    (hs : Scheduled p x.after { x.watcher with worker := left } dispatch w') : Kept p x w'
  /-- A failure for one frame is reported before anything else is done. -/
  | excused {w' : Watcher β} {e : LinkError} {left : β} (hf : x.fate = .answered (.error e) left)
    (he : e.isResource = false)
    (hs : Scheduled p ((p.report (frameFailed x.watcher e)).run x.after).2
      { x.watcher with worker := left } (p.afterError left) w') : Kept p x w'

theorem lookAwake_fst (w : Watcher β) :
    (lookAwake w).1 = w ∨ (lookAwake w).1 = { w with flagged := false } := by
  unfold lookAwake
  split
  · exact .inl rfl
  · split
    · exact .inl rfl
    · split
      · exact .inr rfl
      · exact .inl rfl

theorem lookAwake_same (w : Watcher β) : IsSame w (lookAwake w).1 := by
  rcases lookAwake_fst w with h | h <;> rw [h] <;> exact ⟨rfl, rfl, rfl, rfl⟩

theorem Watcher.collected_same (w : Watcher β) (outcome : Except Errno Bool) :
    IsSame w (w.collected outcome) := by
  cases outcome <;> exact ⟨rfl, rfl, rfl, rfl⟩

section

variable {p : Platform σ β} {s : σ} {w w' : Watcher β} {x : Encounter σ β}

theorem Scheduled.same {dispatch : Dispatch} (h : Scheduled p s w dispatch w') : IsSame w w' := by
  cases h <;> exact ⟨rfl, rfl, rfl, rfl⟩

theorem Kept.descriptor_eq (h : Kept p x w') : w'.descriptor = x.watcher.descriptor := by
  cases h with
  | waited => rfl
  | answered _ hs => exact hs.same.descriptor
  | excused _ _ hs => exact hs.same.descriptor

end

/-! ## Looking -/

variable (p : Platform σ β)

theorem look_same (w : Watcher β) (s : σ) : IsSame w ((look p w).run s).1.1 := by
  unfold look
  cases w.resumeAt with
  | none => exact lookAwake_same w
  | some t =>
    simp only [run_bind, run_get]
    split
    · exact .refl w
    · simp only [run_bind]
      cases ((p.probe w.descriptor w.readiness).run s).1 with
      | ok level =>
        have hsame : IsSame w { w with resumeAt := none, armed := level } := ⟨rfl, rfl, rfl, rfl⟩
        exact hsame.trans (lookAwake_same _)
      | error cause => exact ⟨rfl, rfl, rfl, rfl⟩

theorem lookAll_same (ws : List (Watcher β)) (s : σ) :
    List.Forall₂ (fun w l => IsSame w l.1) ws ((lookAll p ws).run s).1 := by
  induction ws generalizing s with
  | nil => exact .nil
  | cons w ws ih => exact .cons (look_same p w s) (ih _)

/-! ## Serving -/

theorem schedule_scheduled (w : Watcher β) (dispatch : Dispatch) (s : σ × List (Called β)) :
    Scheduled p s.1 w dispatch ((schedule p.logged w dispatch).run s).1 := by
  cases dispatch with
  | idle => exact .idle
  | pause milliseconds => exact .pause milliseconds
  | handled =>
    simp only [schedule, run_bind]
    cases hp : ((p.probe w.descriptor w.readiness).run s.1).1 with
    | ok level =>
      rw [show ((p.logged.probe w.descriptor w.readiness).run s).1 = .ok level from hp]
      exact .handled level hp
    | error cause =>
      rw [show ((p.logged.probe w.descriptor w.readiness).run s).1 = .error cause from hp]
      exact .unprobed cause hp

/-- What an encounter leaves of a watcher, with the failure that removes it. -/
structure Leaves (x : Encounter σ β) (y : Served β) : Prop where
  failure : y.2 = x.fate.failure
  kept : x.visit.stays = true → Kept p x y.1

/-- What serving one watcher comes to, with the calls on the list before and after. -/
structure Serves (stats : Stats) (l : Looked β) (calls : List (Called β)) (x : Encounter σ β)
    (y : Served β) (stats' : Stats) (calls' : List (Called β)) : Prop extends Leaves p x y where
  watcher : x.watcher = l.1
  look : x.fate.look = l.2
  calls : calls' = calls ++ x.visit.call?.toList
  stats : stats' = stats.plus { x.fate.credit with deregistered := 0 }

theorem serve_serves (stats : Stats) (l : Looked β) (s : σ × List (Called β)) :
    Serves p stats l s.2 (meet p l s.1) ((serve p.logged stats l).run s).1.1
      ((serve p.logged stats l).run s).1.2 ((serve p.logged stats l).run s).2.2 := by
  match l with
  | (w, none) =>
    exact ⟨⟨rfl, fun _ => .waited rfl⟩, rfl, rfl, (List.append_nil _).symm, rfl⟩
  | (w, some (.error cause)) => exact ⟨⟨rfl, nofun⟩, rfl, rfl, (List.append_nil _).symm, rfl⟩
  | (w, some (.ok ())) =>
    obtain ⟨⟨⟨answer, left⟩, s₁⟩, ha⟩ : ∃ t, (p.onReady w.worker).run s.1 = t := ⟨_, rfl⟩
    have hmeet : meet p (w, some (.ok ())) s.1 = ⟨w, .answered answer left, s.1, s₁⟩ := by
      simp only [meet, ha]
    rw [hmeet]
    simp only [serve, run_bind]
    rw [onReady_run p ha]
    cases answer with
    | ok dispatch =>
      have hscheduled := schedule_scheduled p { w with worker := left } dispatch
        (s₁, s.2 ++ [⟨w.worker, .ok dispatch, left⟩])
      simp only [run_bind, run_pure]
      refine ⟨⟨rfl, fun _ => .answered rfl hscheduled⟩, rfl, rfl, schedule_keeps p _ dispatch _, ?_⟩
      cases dispatch <;> rfl
    | error e =>
      cases he : e.isResource with
      | true =>
        simp only [he, if_true, run_bind, run_pure]
        refine ⟨⟨?_, fun hs => ?_⟩, rfl, rfl, rfl, ?_⟩
        · simp only [Fate.failure, he, if_true]
        · simp [Visit.stays, Encounter.visit, Fate.failure, he] at hs
        · simp only [Fate.credit, he, if_true]
          rfl
      | false =>
        have hscheduled := schedule_scheduled p { w with worker := left } (p.afterError left)
          ((p.logged.report (frameFailed w e)).run (s₁, s.2 ++ [⟨w.worker, .error e, left⟩])).2
        simp only [he, Bool.false_eq_true, if_false, run_bind, run_pure]
        refine ⟨⟨?_, fun _ => .excused rfl he hscheduled⟩, rfl, rfl, schedule_keeps p _ _ _, ?_⟩
        · simp only [Fate.failure, he, Bool.false_eq_true, if_false]
        · simp only [Fate.credit, he, Bool.false_eq_true, if_false]
          rfl

/-- Everybody who was looked at is met, in order, and that is what serving comes to. -/
structure ServesAll (stats : Stats) (looked : List (Looked β)) (calls : List (Called β))
    (xs : List (Encounter σ β)) (served : List (Served β)) (stats' : Stats)
    (calls' : List (Called β)) : Prop where
  looked : xs.map (fun x => (x.watcher, x.fate.look)) = looked
  leaves : List.Forall₂ (Leaves p) xs served
  calls : calls' = calls ++ (visitsOf xs).filterMap Visit.call?
  stats : stats' = stats.plus { tally (visitsOf xs) with deregistered := 0 }

theorem serveAll_serves (stats : Stats) (looked : List (Looked β)) (s : σ × List (Called β)) :
    ServesAll p stats looked s.2 (meetAll p stats looked s.1)
      ((serveAll p.logged stats looked).run s).1.1 ((serveAll p.logged stats looked).run s).1.2
      ((serveAll p.logged stats looked).run s).2.2 := by
  induction looked generalizing stats s with
  | nil => exact ⟨rfl, .nil, (List.append_nil _).symm, rfl⟩
  | cons l looked ih =>
    have hx := serve_serves p stats l s
    obtain ⟨hval, hstate⟩ := serve_erases p stats l s
    obtain ⟨hlooked, hleaves, hcalls, hstats⟩ :=
      ih ((serve p.logged stats l).run s).1.2 ((serve p.logged stats l).run s).2
    have hmeet : meetAll p stats (l :: looked) s.1 = meet p l s.1 ::
        meetAll p ((serve p.logged stats l).run s).1.2 looked
          ((serve p.logged stats l).run s).2.1 := by
      rw [hval, hstate]
      rfl
    rw [hmeet]
    refine ⟨?_, .cons hx.toLeaves hleaves, ?_, ?_⟩
    · rw [List.map_cons, hlooked, hx.watcher, hx.look]
    · refine hcalls.trans ?_
      rw [hx.calls, List.append_assoc]
      congr 1
      cases hc : (meet p l s.1).visit.call? <;> simp [visitsOf, hc]
    · refine hstats.trans ?_
      rw [hx.stats, Stats.plus_assoc]
      rfl

theorem deregistered_credit (fate : Fate β) :
    fate.credit.deregistered = if fate.failure.isSome then 1 else 0 := by
  match fate with
  | .waited | .failed _ => rfl
  | .answered (.ok dispatch) _ => cases dispatch <;> rfl
  | .answered (.error e) _ => cases he : e.isResource <;> simp [Fate.credit, Fate.failure, he]

variable {p}

theorem removedCount_eq {xs : List (Encounter σ β)} {served : List (Served β)}
    (h : List.Forall₂ (Leaves p) xs served) :
    removedCount served = (tally (visitsOf xs)).deregistered := by
  induction h with
  | nil => rfl
  | @cons x y xs served hx _ ih =>
    have hd := deregistered_credit x.fate
    rw [← hx.failure] at hd
    show _ = x.fate.credit.deregistered + (tally (visitsOf xs)).deregistered
    rw [hd, ← ih, removedCount, removedCount, List.filter_cons]
    cases y.2.isSome <;> simp; omega

theorem firstFailure_eq {xs : List (Encounter σ β)} {served : List (Served β)}
    (h : List.Forall₂ (Leaves p) xs served) : firstFailure served = firstLoss xs := by
  induction h with
  | nil => rfl
  | cons hx _ ih =>
    simp only [firstFailure, firstLoss] at ih
    simp only [firstFailure, firstLoss, List.findSome?_cons, hx.failure, ih]

/-- The watchers that stay are left as their own encounters left them. -/
theorem survivors_kept {xs : List (Encounter σ β)} {served : List (Served β)}
    (h : List.Forall₂ (Leaves p) xs served) :
    List.Forall₂ (Kept p) (xs.filter fun x => x.visit.stays) (survivors served) := by
  induction h with
  | nil => exact .nil
  | @cons x y xs served hx _ ih =>
    obtain ⟨w, failure⟩ := y
    obtain ⟨hfailure, hkept⟩ := hx
    cases failure with
    | none =>
      have hs : x.visit.stays = true := by
        rw [Visit.stays, Encounter.visit, ← hfailure]
        rfl
      rw [List.filter_cons, if_pos hs]
      exact .cons (hkept hs) ih
    | some e =>
      have hs : ¬ x.visit.stays = true := by
        rw [Visit.stays, Encounter.visit, ← hfailure]
        exact Bool.false_ne_true
      rw [List.filter_cons, if_neg hs]
      exact ih

/-! ## Lists -/

theorem map_eq_map_of_forall₂ {α α' γ : Type} {f : α → γ} {g : α' → γ} {as : List α}
    {bs : List α'} (h : List.Forall₂ (fun a b => f a = g b) as bs) : as.map f = bs.map g := by
  rw [← List.forall₂_eq_eq_eq, List.forall₂_map_left_iff, List.forall₂_map_right_iff]
  exact h

/-- What follows for each partner holds of all of them. -/
theorem forall_mem_of_forall₂ {α γ : Type} {R : α → γ → Prop} {P : α → Prop} {P' : γ → Prop}
    {as : List α} {cs : List γ} (h : List.Forall₂ R as cs) (hR : ∀ {a c}, R a c → P a → P' c)
    (hp : ∀ a ∈ as, P a) : ∀ c ∈ cs, P' c := by
  induction h with
  | nil => exact nofun
  | @cons a c as cs hac _ ih =>
    rw [List.forall_mem_cons] at hp ⊢
    exact ⟨hR hac hp.1, ih hp.2⟩

end PacketLink.Reactor
