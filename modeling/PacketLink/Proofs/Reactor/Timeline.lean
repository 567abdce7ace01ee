import PacketLink.Proofs.Reactor.Accounting
import PacketLink.Proofs.Reactor.Pauses

/-!
# Watchers over time

* `Event`: a watcher is registered, or its worker is called.
* `Timeline p ws s past`: watchers after these events, with any number of runs among them. A run
  may be stopped, given up between two turns or while it waits, and resumed, and between two turns
  anything may happen to the surroundings except that the clock is turned back.
* `Timeline.loop`: so whatever runs come to is on a timeline.
* `Timeline.pause_kept`: when a worker has paused, its next call is not before the pause is over.
-/

namespace PacketLink.Reactor

variable {σ β : Type} {p : Platform σ β} {W : β → Prop} {d : Nat} {w : Watcher β}
  {ws ws' : List (Watcher β)} {s s' : σ} {r : Run β} {t : Turn β} {c c' : Encounter σ β}

/-- What happens to watchers. -/
inductive Event (σ β : Type) where
  | registered (descriptor : Nat)
  | called (x : Encounter σ β)

/-- The descriptor of the watcher to which it happens. -/
def Event.descriptor : Event σ β → Nat
  | .registered d => d
  | .called x => x.watcher.descriptor

/-- The calls among encounters. -/
def callsIn (xs : List (Encounter σ β)) : List (Event σ β) :=
  (xs.filter fun x => x.fate.isCalled).map .called

/-- Watchers, and the surroundings, after these events. -/
inductive Timeline (p : Platform σ β) : List (Watcher β) → σ → List (Event σ β) → Prop where
  | start (s : σ) : Timeline p [] s []
  | register {ws ws' : List (Watcher β)} {s : σ} {past : List (Event σ β)} {w : Watcher β}
      (h : Timeline p ws s past) (hr : register ws w = .ok ws') :
      Timeline p ws' s (past ++ [.registered w.descriptor])
  /-- Something else happens, and time passes. -/
  | elapse {ws : List (Watcher β)} {s s' : σ} {past : List (Event σ β)}
      (h : Timeline p ws s past) (hle : p.now s ≤ p.now s') : Timeline p ws s' past
  | turn {r : Run β} {t : Turn β} {s s' : σ} {past : List (Event σ β)}
      (h : Timeline p r.watchers s past) (ht : (r.turn p).run s = (t, s')) :
      Timeline p t.watchers s' (past ++ callsIn (r.encounters p s))
  /-- A run is given up while it waits. -/
  | blocks {r : Run β} {ws : List (Watcher β)} {s s' : σ} {past : List (Event σ β)}
      (h : Timeline p r.watchers s past) (hb : Blocks p r s ws s') : Timeline p ws s' past

variable {past earlier later : List (Event σ β)}

/-! ## Runs -/

/-- The calls of a run of so many turns. -/
def Run.events (p : Platform σ β) : Nat → Run β → σ → List (Event σ β)
  | 0, _, _ => []
  | fuel + 1, r, s =>
    callsIn (r.encounters p s) ++
      match (r.turn p).run s with
      | (.next r', s') => Run.events p fuel r' s'
      | (.ended _ _, _) => []

/-- What a run comes to is on the timeline of its watchers. -/
theorem Timeline.loop (h : Timeline p r.watchers s past) (fuel : Nat) :
    Timeline p ((Run.loop p fuel r).run s).1.2 ((Run.loop p fuel r).run s).2
      (past ++ r.events p fuel s) := by
  induction fuel generalizing r s past with
  | zero =>
    rw [Run.events, List.append_nil]
    exact h
  | succ fuel ih =>
    obtain ⟨⟨t, s₁⟩, ht⟩ : ∃ t, (r.turn p).run s = t := ⟨_, rfl⟩
    have h₁ := h.turn ht
    simp only [Run.loop, Run.events, run_bind, ht]
    cases t with
    | ended ending ws =>
      rw [List.append_nil]
      exact h₁
    | next r' =>
      rw [← List.append_assoc]
      exact ih h₁

/-! ## Descriptors -/

theorem mem_callsIn {xs : List (Encounter σ β)} :
    .called c ∈ callsIn xs ↔ c ∈ xs ∧ c.fate.isCalled = true := by
  simp [callsIn]

theorem callsIn_sublist (xs : List (Encounter σ β)) :
    ((callsIn xs).map Event.descriptor).Sublist (xs.map (·.watcher.descriptor)) := by
  rw [callsIn, List.map_map]
  exact List.filter_sublist.map _

theorem Run.encounters_descriptors (h : (r.watchers.map (·.descriptor)).Nodup) :
    ((r.encounters p s).map (·.watcher.descriptor)).Nodup := by
  unfold encounters
  cases hx : r.iteration? p s with
  | none => simp
  | some xs =>
    obtain ⟨r', s', -, hi⟩ := Run.turn_iterated hx
    exact hi.descriptors_eq ▸ h

theorem register_eq_ok_iff : register ws w = .ok ws' ↔
    w.descriptor ∉ ws.map (·.descriptor) ∧ ws' = ws ++ [w] := by
  by_cases hw : w.descriptor ∈ ws.map (·.descriptor)
  · simp [register_of_mem hw, hw]
  · simp [register_of_not_mem hw, hw, eq_comm]

/-- Every descriptor has one watcher. -/
theorem Timeline.distinct (h : Timeline p ws s past) : (ws.map (·.descriptor)).Nodup := by
  induction h with
  | start s => simp
  | register _ hr ih =>
    obtain ⟨hnew, rfl⟩ := register_eq_ok_iff.mp hr
    rw [List.map_append, List.map_singleton, ← List.concat_eq_append]
    exact ih.concat hnew
  | elapse _ _ ih => exact ih
  | turn _ ht ih => exact (Run.turn_sublist ht).nodup ih
  | blocks _ hb ih => exact (Run.turn_sublist hb.turn_run).nodup ih

/-! ## Calls -/

/-- A call on a timeline is a turn of its worker. -/
theorem Timeline.called_run (h : Timeline p ws s past) (hc : .called c ∈ past) :
    ∃ answer left, c.fate = .answered answer left ∧
      (p.onReady c.watcher.worker).run c.before = ((answer, left), c.after) := by
  induction h with
  | start s => simp at hc
  | register _ _ ih => exact ih (by simpa using hc)
  | elapse _ _ ih => exact ih hc
  | @turn r t s s' past _ _ ih =>
    rcases List.mem_append.mp hc with hc | hc
    · exact ih hc
    · obtain ⟨hmem, hcalled⟩ := mem_callsIn.mp hc
      unfold Run.encounters at hmem
      cases hx : r.iteration? p s with
      | none => simp [hx] at hmem
      | some xs =>
        obtain ⟨looked, s₁, hserving⟩ := Run.serving hx
        rw [hx, Option.getD_some, hserving.met] at hmem
        cases hfate : c.fate with
        | waited => simp [hfate, Fate.isCalled] at hcalled
        | failed cause => simp [hfate, Fate.isCalled] at hcalled
        | answered answer left => exact ⟨answer, left, rfl, meetAll_run hmem hfate⟩
  | blocks _ _ ih => exact ih hc

/-- A timeline up to the end of the turn of a call. -/
theorem Timeline.until (h : Timeline p ws s past) (hpast : past = earlier ++ .called c :: later) :
    ∃ ws' s' tail, Timeline p ws' s' (earlier ++ .called c :: tail) ∧
      ∀ d, .registered d ∉ tail := by
  induction h generalizing later with
  | start s => simp at hpast
  | register h hreg ih =>
    rcases append_eq_append_cons_iff.mp hpast with ⟨before, rfl, rfl⟩ | ⟨before, -, hnew⟩
    · exact ih rfl
    · cases before <;> simp at hnew
  | elapse _ _ ih => exact ih hpast
  | turn h ht ih =>
    rcases append_eq_append_cons_iff.mp hpast with ⟨before, rfl, rfl⟩ | ⟨before, rfl, hnew⟩
    · exact ih rfl
    · have hturn := h.turn ht
      rw [hnew, ← List.append_assoc] at hturn
      refine ⟨_, _, later, hturn, fun d hd => ?_⟩
      have hmem : .registered d ∈ callsIn (Run.encounters p _ _) :=
        hnew ▸ List.mem_append_right before (List.mem_cons_of_mem _ hd)
      simp [callsIn] at hmem
  | blocks _ _ ih => exact ih hpast

/-! ## Pauses -/

/-- What follows a call that was answered with a pause: the worker is not called before its end. -/
structure PauseKept (p : Platform σ β) (W : β → Prop) (c : Encounter σ β) (milliseconds : Nat)
    (ws : List (Watcher β)) (s : σ) (later : List (Event σ β)) : Prop where
  watchers : PausesAt p W c.watcher.descriptor (p.now c.after + milliseconds) ws s
  calls : ∀ c', .called c' ∈ later → c'.watcher.descriptor = c.watcher.descriptor →
    W c'.watcher.worker ∧ p.now c.after + milliseconds ≤ p.now c'.before

variable {milliseconds : Nat}

/-- A turn keeps a pause that began before it. -/
theorem PauseKept.turn (hp : Clocked p) (hW : KeepsWorker p W)
    (h : PauseKept p W c milliseconds r.watchers s later) (ht : (r.turn p).run s = (t, s')) :
    PauseKept p W c milliseconds t.watchers s' (later ++ callsIn (r.encounters p s)) := by
  obtain ⟨hwatchers, hcalls⟩ := Run.turn_pauses hp hW ht h.watchers
  refine ⟨hwatchers, fun c' hc' hd => ?_⟩
  rcases List.mem_append.mp hc' with hc' | hc'
  · exact h.calls c' hc' hd
  · obtain ⟨hmem, hcalled⟩ := mem_callsIn.mp hc'
    exact hcalls c' hmem hcalled hd

/-- A turn in which a pause begins has no further call of the worker. -/
theorem Timeline.pause_begins (hp : Clocked p) (hW : KeepsWorker p W)
    (h : Timeline p r.watchers s past) (ht : (r.turn p).run s = (t, s'))
    (hcalls : callsIn (r.encounters p s) = earlier ++ .called c :: later)
    (hworker : W c.watcher.worker) (hpause : c.fate.sequel? p = some (.pause milliseconds)) :
    PauseKept p W c milliseconds t.watchers s' later := by
  have hdistinct := Run.encounters_descriptors (p := p) (s := s) h.distinct
  have hc : c ∈ r.encounters p s := by
    have hmem : .called c ∈ callsIn (r.encounters p s) := by simp [hcalls]
    exact (mem_callsIn.mp hmem).1
  -- Everybody has one visit in a turn, and a descriptor of their own.
  have hlater (e : Event σ β) (he : e ∈ later) : e.descriptor ≠ c.watcher.descriptor := by
    have hnodup := (callsIn_sublist (r.encounters p s)).nodup hdistinct
    rw [hcalls, List.map_append, List.map_cons] at hnodup
    have hnot := (List.nodup_cons.mp (List.nodup_append.mp hnodup).2.1).1
    exact fun heq => hnot (List.mem_map.mpr ⟨e, he, heq⟩)
  refine ⟨?_, fun c' hc' hd => absurd hd (hlater _ hc')⟩
  unfold Run.encounters at hc hdistinct
  cases hx : r.iteration? p s with
  | none => simp [hx] at hc
  | some xs =>
    rw [hx] at hc hdistinct
    obtain ⟨looked, s₁, hserving⟩ := Run.serving hx
    obtain ⟨r', s'', ht', -⟩ := Run.turn_iterated hx
    obtain ⟨rfl, rfl⟩ := Prod.mk.inj (ht.symm.trans ht')
    exact hserving.pause_begins hp hW hdistinct ht' hc hworker hpause

/-- Whatever happens after a call that was answered with a pause, its worker is not called before
the end of the pause, as long as nobody else is registered at its descriptor. -/
theorem Timeline.pause_kept (hp : Clocked p) (hW : KeepsWorker p W) (h : Timeline p ws s past)
    (hpast : past = earlier ++ .called c :: later) (hworker : W c.watcher.worker)
    (hpause : c.fate.sequel? p = some (.pause milliseconds))
    (hr : .registered c.watcher.descriptor ∉ later) :
    PauseKept p W c milliseconds ws s later := by
  induction h generalizing earlier later with
  | start s => simp at hpast
  | register h hreg ih =>
    obtain ⟨-, rfl⟩ := register_eq_ok_iff.mp hreg
    rcases append_eq_append_cons_iff.mp hpast with ⟨before, rfl, rfl⟩ | ⟨before, -, hnew⟩
    · simp only [List.mem_append, List.mem_singleton, Event.registered.injEq, not_or] at hr
      obtain ⟨hwatchers, hcalls⟩ := ih rfl hr.1
      refine ⟨fun w' hw' hd => ?_, fun c' hc' => hcalls c' (by simpa using hc')⟩
      rcases List.mem_append.mp hw' with hw' | hw'
      · exact hwatchers w' hw' hd
      · rw [List.mem_singleton.mp hw'] at hd
        exact absurd hd.symm hr.2
    · cases before <;> simp at hnew
  | elapse _ hle ih =>
    obtain ⟨hwatchers, hcalls⟩ := ih hpast hr
    exact ⟨hwatchers.later hle, hcalls⟩
  | turn h ht ih =>
    rcases append_eq_append_cons_iff.mp hpast with ⟨before, rfl, rfl⟩ | ⟨before, -, hnew⟩
    · exact (ih rfl fun hmem => hr (List.mem_append_left _ hmem)).turn hp hW ht
    · exact h.pause_begins hp hW ht hnew hworker hpause
  | blocks _ hb ih =>
    obtain ⟨hwatchers, hcalls⟩ := ih hpast hr
    exact ⟨hb.pauses hp hwatchers, hcalls⟩

end PacketLink.Reactor
