import PacketLink.Proofs.Reactor.Accounting
import PacketLink.Proofs.Reactor.Rehearsal

/-!
# How a run ends

* `StopLasts p`: who asks a run to stop while it serves does not take that back.
* `counters its`: what iterations are worth. `Blamed its e`: `e` is the failure of the watcher that
  was registered first among those that the last iteration with a loss removed.
* `run_concludes`: a run comes to a turn at which it ends, and what it finds there decides how. A
  request to stop goes before the loss of all watchers, and neither cuts an iteration short.

The failure that a run remembers is read off its iterations (`Reaches.lastFailure`), and so are its
counters (`Reaches.stats`); so the state of the loop at its end plays no part in the result.
-/

namespace PacketLink.Reactor

variable {σ β : Type} {p : Platform σ β} {r r' : Run β} {s s' : σ} {n : Nat}
  {its : List (List (Encounter σ β))} {c c' : Run β × σ}

/-- A request to stop is not taken back while the loop looks and serves. -/
abbrev StopLasts (p : Platform σ β) : Prop := Abides p fun s => p.stopRequested s = true

/-- What iterations are worth in the counters of a run. -/
def counters (its : List (List (Encounter σ β))) : Stats :=
  ({ iterations := its.length } : Stats).plus (tally (its.map visitsOf).flatten)

/-- The last iteration that removed anybody removed somebody for `e`, and nobody before them. -/
def Blamed (its : List (List (Encounter σ β))) (e : LinkError) : Prop :=
  ∃ earlier xs later, its = earlier ++ xs :: later ∧
    (∀ ys ∈ later, ∀ y ∈ ys, y.fate.failure = none) ∧
    ∃ before x after, xs = before ++ x :: after ∧ (∀ y ∈ before, y.fate.failure = none) ∧
      x.fate.failure = some e

theorem firstLoss_eq_none_iff {xs : List (Encounter σ β)} :
    firstLoss xs = none ↔ ∀ x ∈ xs, x.fate.failure = none := List.findSome?_eq_none_iff

theorem blamed_iff {e : LinkError} : Blamed its e ↔ its.reverse.findSome? firstLoss = some e := by
  rw [List.findSome?_eq_some_iff]
  constructor
  · rintro ⟨earlier, xs, later, rfl, hlater, before, x, after, rfl, hbefore, hx⟩
    refine ⟨later.reverse, before ++ x :: after, earlier.reverse, by simp, ?_, fun ys hys => ?_⟩
    · exact List.findSome?_eq_some_iff.mpr ⟨before, x, after, rfl, hx, hbefore⟩
    · exact firstLoss_eq_none_iff.mpr (hlater ys (List.mem_reverse.mp hys))
  · rintro ⟨later, xs, earlier, hits, hloss, hlater⟩
    obtain ⟨before, x, after, rfl, hx, hbefore⟩ := List.findSome?_eq_some_iff.mp hloss
    refine ⟨earlier.reverse, before ++ x :: after, later.reverse, ?_, fun ys hys => ?_,
      before, x, after, rfl, hbefore, hx⟩
    · rw [← List.reverse_reverse its, hits]
      simp
    · exact firstLoss_eq_none_iff.mp (hlater ys (List.mem_reverse.mp hys))

theorem not_blamed_iff : its.reverse.findSome? firstLoss = none ↔
    ∀ xs ∈ its, ∀ x ∈ xs, x.fate.failure = none := by
  rw [List.findSome?_eq_none_iff]
  simp only [List.mem_reverse, firstLoss_eq_none_iff]

/-! ## Requests to stop -/

/-- A run that is asked to stop takes no turn any more. -/
theorem Reaches.of_stopped (h : Reaches p c n its c') (hs : p.stopRequested c.2 = true) :
    n = 0 ∧ its = [] ∧ c' = c := by
  induction h with
  | start => exact ⟨rfl, rfl, rfl⟩
  | turn h ht ih =>
    obtain ⟨-, -, hc⟩ := ih
    rw [← hc] at hs
    rw [Run.turn_stopped _ hs] at ht
    cases ht

/-! ## What a run has come to -/

theorem Reaches.stats {ws : List (Watcher β)} (h : Reaches p ({ watchers := ws }, s) n its c) :
    c.1.stats = counters its := by
  rw [h.balanced.stats, Stats.zero_plus, List.length_map]
  rfl

theorem Reaches.lastFailure_eq {ws : List (Watcher β)}
    (h : Reaches p ({ watchers := ws }, s) n its c) :
    c.1.lastFailure = its.reverse.findSome? firstLoss := by
  rw [h.lastFailure, Option.or_none]

/-- The watchers that an iteration meets are in the order in which they were registered. -/
theorem Reaches.sublist {ws : List (Watcher β)} {s₀ : σ} {xs : List (Encounter σ β)}
    (h : Reaches p ({ watchers := ws }, s₀) n its (r, s)) (hi : Iterated p r s xs r' s') :
    (xs.map (·.watcher.descriptor)).Sublist (ws.map (·.descriptor)) := by
  rw [hi.descriptors_eq]
  exact h.descriptors_sublist

/-- What a run finds at the turn that ends it, and how it ends there. -/
inductive Verdict (p : Platform σ β) (its : List (List (Encounter σ β))) (r : Run β) (s : σ) :
    Ending → Prop where
  | stopped (hs : p.stopRequested s = true) : Verdict p its r s (.finished (counters its))
  | deserted (hs : p.stopRequested s = false) (hr : r.watchers = [])
    (hn : ∀ xs ∈ its, ∀ x ∈ xs, x.fate.failure = none) :
    Verdict p its r s (.finished (counters its))
  | failed {e : LinkError} (hs : p.stopRequested s = false) (hr : r.watchers = [])
    (hb : Blamed its e) : Verdict p its r s (.failed e)
  | noticed (hs : p.stopRequested s = false) (hr : r.watchers ≠ [])
    (hx : r.iteration? p s = none)
    (hi : (p.interruption.run ((lookAll p r.watchers).run s).2).1 = some .stop) :
    Verdict p its r s (.finished (counters its))
  | dropped (hs : p.stopRequested s = false) (hr : r.watchers ≠ [])
    (hx : r.iteration? p s = none)
    (hi : (p.interruption.run ((lookAll p r.watchers).run s).2).1 = some .abandon) :
    Verdict p its r s .abandoned

theorem Reaches.verdict {ws ws' : List (Watcher β)} {s₀ : σ} {ending : Ending}
    (h : Reaches p ({ watchers := ws }, s₀) n its (r, s))
    (ht : (r.turn p).run s = (.ended ending ws', s')) : Verdict p its r s ending := by
  have hturned := Run.turned p r s
  have hstats : r.stats = counters its := h.stats
  have hlast : r.lastFailure = its.reverse.findSome? firstLoss := h.lastFailure_eq
  rw [ht] at hturned
  cases hturned with
  | stopped hs =>
    rw [hstats]
    exact .stopped hs
  | deserted hs hr =>
    unfold Run.upshot
    rw [hr, hlast, hstats]
    cases hloss : its.reverse.findSome? firstLoss with
    | none => exact .deserted hs hr (not_blamed_iff.mp hloss)
    | some e => exact .failed hs hr (blamed_iff.mpr hloss)
  | noticed hs hr hx hi =>
    rw [hstats]
    exact .noticed hs hr hx (congrArg Prod.fst hi)
  | dropped hs hr hx hi => exact .dropped hs hr hx (congrArg Prod.fst hi)

/-! ## Results -/

/-- What holds of a run of these watchers that comes in `n` turns, with these iterations, to the
place where it ends. -/
structure Conclusion (p : Platform σ β) (ws : List (Watcher β)) (turns : Nat) (s₀ : σ) (n : Nat)
    (its : List (List (Encounter σ β))) (r : Run β) (s : σ) : Prop where
  reaches : Reaches p ({ watchers := ws }, s₀) n its (r, s)
  within : n ≤ turns
  /-- A run that was asked to stop before it began does nothing. -/
  stopped_before : p.stopRequested s₀ = true → 0 < turns →
    its = [] ∧ (run p turns ws).run s₀ = ((.finished {}, ws), s₀)
  calls : ((run p.logged turns ws).run (s₀, [])).2.2 = callsOf (its.map visitsOf)
  /-- An iteration meets all its watchers. If one of them asks the run to stop, it is the last. -/
  iteration : ∀ earlier xs later, its = earlier ++ xs :: later → ∃ m r₁ s₁ r₂ s₂,
    Reaches p ({ watchers := ws }, s₀) m earlier (r₁, s₁) ∧ Iterated p r₁ s₁ xs r₂ s₂ ∧
      (xs.map (·.watcher.descriptor)).Sublist (ws.map (·.descriptor)) ∧
      ∀ x ∈ xs, p.stopRequested x.after = true → later = [] ∧ (r, s) = (r₂, s₂) ∧
        (n < turns → (run p turns ws).run s₀ = ((.finished (counters its), r₂.watchers), s₂))
  failed_iff : ∀ e, ((run p turns ws).run s₀).1.1 = .failed e ↔
    n < turns ∧ p.stopRequested s = false ∧ r.watchers = [] ∧ Blamed its e
  finished_iff : ∀ stats, ((run p turns ws).run s₀).1.1 = .finished stats ↔
    n < turns ∧ stats = counters its ∧
      (p.stopRequested s = true ∨
        (p.stopRequested s = false ∧ r.watchers = [] ∧
          ∀ xs ∈ its, ∀ x ∈ xs, x.fate.failure = none) ∨
        (p.stopRequested s = false ∧ r.watchers ≠ [] ∧ r.iteration? p s = none ∧
          (p.interruption.run ((lookAll p r.watchers).run s).2).1 = some .stop))
  abandoned_iff : ((run p turns ws).run s₀).1.1 = .abandoned ↔ n = turns ∨
    (p.stopRequested s = false ∧ r.watchers ≠ [] ∧ r.iteration? p s = none ∧
      (p.interruption.run ((lookAll p r.watchers).run s).2).1 = some .abandon)

/-- What is found at a turn decides how the run ends. -/
theorem Verdict.unique {ending ending' : Ending} (h : Verdict p its r s ending)
    (h' : Verdict p its r s ending') : ending = ending' := by
  cases h <;> cases h' <;> grind [blamed_iff, not_blamed_iff]

theorem Verdict.failed_iff {ending : Ending} (h : Verdict p its r s ending) (e : LinkError) :
    ending = .failed e ↔ p.stopRequested s = false ∧ r.watchers = [] ∧ Blamed its e := by
  constructor
  · rintro rfl
    cases h with
    | failed hs hr hb => exact ⟨hs, hr, hb⟩
  · rintro ⟨hs, hr, hb⟩
    exact h.unique (.failed hs hr hb)

theorem Verdict.finished_iff {ending : Ending} (h : Verdict p its r s ending) (stats : Stats) :
    ending = .finished stats ↔ stats = counters its ∧ (p.stopRequested s = true ∨
      (p.stopRequested s = false ∧ r.watchers = [] ∧
        ∀ xs ∈ its, ∀ x ∈ xs, x.fate.failure = none) ∨
      (p.stopRequested s = false ∧ r.watchers ≠ [] ∧ r.iteration? p s = none ∧
        (p.interruption.run ((lookAll p r.watchers).run s).2).1 = some .stop)) := by
  constructor
  · rintro rfl
    cases h with
    | stopped hs => exact ⟨rfl, .inl hs⟩
    | deserted hs hr hn => exact ⟨rfl, .inr (.inl ⟨hs, hr, hn⟩)⟩
    | noticed hs hr hx hi => exact ⟨rfl, .inr (.inr ⟨hs, hr, hx, hi⟩)⟩
  · rintro ⟨rfl, hs | ⟨hs, hr, hn⟩ | ⟨hs, hr, hx, hi⟩⟩
    · exact h.unique (.stopped hs)
    · exact h.unique (.deserted hs hr hn)
    · exact h.unique (.noticed hs hr hx hi)

theorem Verdict.abandoned_iff {ending : Ending} (h : Verdict p its r s ending) :
    ending = .abandoned ↔ p.stopRequested s = false ∧ r.watchers ≠ [] ∧ r.iteration? p s = none ∧
      (p.interruption.run ((lookAll p r.watchers).run s).2).1 = some .abandon := by
  constructor
  · rintro rfl
    cases h with
    | dropped hs hr hx hi => exact ⟨hs, hr, hx, hi⟩
  · rintro ⟨hs, hr, hx, hi⟩
    exact h.unique (.dropped hs hr hx hi)

/-- The iteration in which somebody asks the run to stop is the last one. -/
theorem Reaches.iteration_last (hp : StopLasts p) {ws : List (Watcher β)} {s₀ : σ} {turns : Nat}
    (h : Reaches p ({ watchers := ws }, s₀) n its (r, s))
    {earlier later : List (List (Encounter σ β))} {xs : List (Encounter σ β)}
    (hits : its = earlier ++ xs :: later) : ∃ m r₁ s₁ r₂ s₂,
      Reaches p ({ watchers := ws }, s₀) m earlier (r₁, s₁) ∧ Iterated p r₁ s₁ xs r₂ s₂ ∧
        (xs.map (·.watcher.descriptor)).Sublist (ws.map (·.descriptor)) ∧
        ∀ x ∈ xs, p.stopRequested x.after = true → later = [] ∧ (r, s) = (r₂, s₂) ∧
          (n < turns →
            (run p turns ws).run s₀ = ((.finished (counters its), r₂.watchers), s₂)) := by
  obtain ⟨m, k, r₁, s₁, r₂, s₂, hm, hx, ht, hk, -⟩ := h.split hits
  obtain ⟨r₂', s₂', ht', hi⟩ := Run.turn_iterated hx
  obtain ⟨hr, hs⟩ := Prod.mk.inj (ht.symm.trans ht')
  obtain rfl := Turn.next.inj hr
  subst hs
  refine ⟨m, r₁, s₁, r₂, s₂, hm, hi, hm.sublist hi, fun x hxs hP => ?_⟩
  obtain ⟨looked, s', hserving⟩ := Run.serving hx
  have hstop := hserving.abides hp ht hxs hP
  obtain ⟨-, hlater, hlast⟩ := hk.of_stopped hstop
  obtain ⟨rfl, rfl⟩ := Prod.mk.inj hlast
  refine ⟨hlater, rfl, fun hn => ?_⟩
  have hstats : r.stats = counters its := h.stats
  rw [← hstats]
  exact h.loop_ended (Run.turn_stopped r hstop) hn

/-- A run that was asked to stop before it began does nothing. -/
theorem Reaches.stopped_before {ws : List (Watcher β)} {s₀ : σ} {turns : Nat}
    (h : Reaches p ({ watchers := ws }, s₀) n its c) (hs : p.stopRequested s₀ = true)
    (hturns : 0 < turns) : its = [] ∧ (run p turns ws).run s₀ = ((.finished {}, ws), s₀) :=
  ⟨(h.of_stopped hs).2.1,
    Reaches.start.loop_ended (Run.turn_stopped { watchers := ws } hs) hturns⟩

/-- However a run is asked to stop, and whatever its watchers do, it comes to a place where it ends,
and its result is what it finds there. -/
theorem run_concludes (hp : StopLasts p) (ws : List (Watcher β)) (turns : Nat) (s₀ : σ) :
    ∃ n its r s, Conclusion p ws turns s₀ n its r s := by
  rcases reaches_end p ({ watchers := ws }, s₀) turns with
    ⟨n, its, r, s, ending, ws', s', hn, h, ht⟩ | ⟨its, ⟨r, s⟩, h⟩
  · have hresult : ((run p turns ws).run s₀).1.1 = ending := congrArg (·.1.1) (h.loop_ended ht hn)
    have hv := h.verdict ht
    refine ⟨n, its, r, s, h, by omega, h.stopped_before, h.calls (.inr ⟨hn, _, _, _, ht⟩),
      fun _ _ _ => h.iteration_last hp, ?_, ?_, ?_⟩
    · intro e
      rw [hresult, hv.failed_iff]
      simp [hn]
    · intro stats
      rw [hresult, hv.finished_iff]
      simp [hn]
    · rw [hresult, hv.abandoned_iff]
      simp [Nat.ne_of_lt hn]
  · have hresult : ((run p turns ws).run s₀).1.1 = .abandoned := congrArg (·.1.1) h.loop_spent
    refine ⟨turns, its, r, s, h, Nat.le_refl _, h.stopped_before,
      h.calls (.inl rfl), fun _ _ _ => h.iteration_last hp, ?_, ?_, ?_⟩
    · simp [hresult]
    · simp [hresult]
    · simp [hresult]

/-! ## A rehearsal -/

/-- No actor takes a request to stop back. -/
theorem rehearsal_stopLasts : StopLasts rehearsal := by
  have hnote {s : Stage} {a : Actor} {taken : Nat} {result : Except LinkError Dispatch}
      (hs : s.stopped = true) : (s.note a taken result).stopped = true := hs
  have hfeed (places : List Nat) {s : Stage} (hs : s.stopped = true) :
      (places.foldl Stage.feed s).stopped = true := by
    induction places generalizing s with
    | nil => exact hs
    | cons place places ih => exact ih (s := s.feed place) hs
  have hrequest {s : Stage} (hs : s.stopped = true) : s.requestStop.stopped = true := by
    unfold Stage.requestStop
    split
    · rfl
    · exact hs
  refine ⟨fun _ _ _ hs => hs, fun a s hs => ?_, fun _ _ hs => hs⟩
  change (a.onReady s).2.stopped = true
  unfold Actor.onReady
  match a.script with
  | [] => exact hnote (s := (s.read a.place 1).2) hs
  | step :: rest =>
    have hread : ((s.read a.place step.take).2).stopped = true := hs
    dsimp only
    split
    · exact hnote (hrequest (hfeed step.feed hread))
    · exact hnote (hfeed step.feed hread)

/-- Two watchers, both with something to do. The first one asks the run to stop. -/
def pair : List (Watcher Actor) :=
  [0, 1].map fun place =>
    { label := actorName place
      descriptor := place
      readiness := .readable
      worker :=
        { place
          label := actorName place
          script := [⟨1, [], place = 0, .ok .handled⟩]
          afterError := .handled }
      armed := true }

def pairStage : Stage where
  host := .ofScript {}
  limit := 10
  queues := #[2, 2]
  watched := #[.readable, .readable]
  events := #[false, false]

/-- The second watcher is called all the same, and there is no second iteration. -/
theorem run_concludes_pair : StopLasts rehearsal ∧
    ((run rehearsal 4 pair).run pairStage).2.calls.map (·.label) = [actorName 1, actorName 0] ∧
    ∃ n its r s, Conclusion rehearsal pair 4 pairStage n its r s :=
  ⟨rehearsal_stopLasts, by decide +kernel, run_concludes rehearsal_stopLasts pair 4 pairStage⟩

end PacketLink.Reactor
