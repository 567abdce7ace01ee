import PacketLink.Proofs.Reactor.Shutdown
import PacketLink.Proofs.Reactor.Visits

/-!
# The history of a run

* `Run.iteration? p s`: the encounters of the next turn, if it is an iteration.
* `Iterated` and `Rested`: what an iteration does, and what a wait does.
* `Run.turned`: what a turn comes to. It is the place where a turn is taken apart; what holds of
  every turn follows from it.
* `Reaches p c n its c'`: from `c` to `c'` there are `n` turns, with these iterations among them.
* `reaches_end`: a run comes to a turn that ends it, or takes all its turns.
* `Reaches.loop_logged`: whom a run calls is read off its iterations.
-/

namespace PacketLink.Reactor

variable {σ β δ : Type} {p : Platform σ β} {r r' : Run β} {s s' : σ} {ws : List (Watcher β)}
  {xs : List (Encounter σ β)}

/-- The counters as the first encounter of an iteration finds them. -/
def Run.entered (r : Run β) : Stats := { r.stats with iterations := r.stats.iterations + 1 }

/-- The encounters of the next turn, if it is an iteration: the loop is not asked to stop, and
somebody is left and ready. -/
def Run.iteration? (p : Platform σ β) (r : Run β) (s : σ) : Option (List (Encounter σ β)) :=
  if p.stopRequested s = false ∧ r.watchers ≠ [] ∧
      (((lookAll p r.watchers).run s).1.any fun l => l.2.isSome) = true then
    some (meetAll p r.entered ((lookAll p r.watchers).run s).1 ((lookAll p r.watchers).run s).2)
  else none

/-- What an iteration does, and how it is logged. -/
structure Iterated (p : Platform σ β) (r : Run β) (s : σ) (xs : List (Encounter σ β))
    (r' : Run β) (s' : σ) : Prop where
  going : p.stopRequested s = false
  /-- Everybody is met once and in order, as the look at them has found them. Those for whom it was
  ready are called, and nobody else is. -/
  looked : xs.map (fun x => (x.watcher, x.fate.look)) = ((lookAll p r.watchers).run s).1
  ready : ∃ x ∈ xs, x.fate.look.isSome = true
  same : List.Forall₂ (fun w x => IsSame w x.watcher) r.watchers xs
  /-- Whoever is called answers what its worker answers in the surroundings to which the loop has
  come then. -/
  met : xs = meetAll p r.entered ((lookAll p r.watchers).run s).1 ((lookAll p r.watchers).run s).2
  answers : ∀ x ∈ xs, ∀ answer left, x.fate = .answered answer left →
    (p.onReady x.watcher.worker).run x.before = ((answer, left), x.after)
  /-- Those who stay keep their order, and each is left as its own answer has left it. -/
  kept : List.Forall₂ (Kept p) (xs.filter fun x => x.visit.stays) r'.watchers
  stats : r'.stats = (r.stats.plus { iterations := 1 }).plus (tally (visitsOf xs))
  lastFailure : r'.lastFailure = (firstLoss xs).or r.lastFailure
  /-- The calls of the turn are those of the encounters. -/
  logged : ∀ calls, (r.turn p.logged).run (s, calls) =
    (.next r', (s', calls ++ (visitsOf xs).filterMap Visit.call?))

theorem Iterated.descriptors_eq (h : Iterated p r s xs r' s') :
    xs.map (·.watcher.descriptor) = r.watchers.map (·.descriptor) :=
  (map_eq_map_of_forall₂ (h.same.imp fun _ _ hs => hs.descriptor.symm)).symm

/-- What a wait does that lets the run go on: nobody is ready, and events are collected. Time passes
if there is none to act on. -/
structure Rested (p : Platform σ β) (r : Run β) (s : σ) (ws : List (Watcher β)) (s' : σ) :
    Prop where
  going : p.stopRequested s = false
  left : r.watchers ≠ []
  path : ∃ looked s₁ s₂ s₃, (lookAll p r.watchers).run s = (looked, s₁) ∧
    (∀ l ∈ looked, l.2 = none) ∧ p.interruption.run s₁ = (none, s₂) ∧
      (collectAll p (looked.map Prod.fst)).run s₂ = (ws, s₃) ∧
        s' = if ws.any Watcher.isRoused then s₃ else ((p.sleep (earliestResume ws)).run s₃).2
  same : List.Forall₂ IsSame r.watchers ws

theorem Rested.descriptors_eq (h : Rested p r s ws s') :
    ws.map (·.descriptor) = r.watchers.map (·.descriptor) :=
  (map_eq_map_of_forall₂ (h.same.imp fun _ _ hs => hs.descriptor.symm)).symm

/-- What a turn comes to. -/
inductive Turned (p : Platform σ β) (r : Run β) (s : σ) : Turn β → σ → Prop where
  | stopped (hs : p.stopRequested s = true) :
    Turned p r s (.ended (.finished r.stats) r.watchers) s
  | deserted (hs : p.stopRequested s = false) (hr : r.watchers = []) :
    Turned p r s (.ended r.upshot []) s
  | iterated {xs : List (Encounter σ β)} {r' : Run β} {s' : σ} (hx : r.iteration? p s = some xs)
    (h : Iterated p r s xs r' s') : Turned p r s (.next r') s'
  | rested {ws : List (Watcher β)} {s' : σ} (hx : r.iteration? p s = none)
    (h : Rested p r s ws s') : Turned p r s (.next { r with watchers := ws }) s'
  /-- A run that waits is asked to stop. -/
  | noticed {s' : σ} (hs : p.stopRequested s = false) (hr : r.watchers ≠ [])
    (hx : r.iteration? p s = none)
    (hi : p.interruption.run ((lookAll p r.watchers).run s).2 = (some .stop, s')) :
    Turned p r s (.ended (.finished r.stats) (((lookAll p r.watchers).run s).1.map Prod.fst)) s'
  | dropped {s' : σ} (hs : p.stopRequested s = false) (hr : r.watchers ≠ [])
    (hx : r.iteration? p s = none)
    (hi : p.interruption.run ((lookAll p r.watchers).run s).2 = (some .abandon, s')) :
    Turned p r s (.ended .abandoned (((lookAll p r.watchers).run s).1.map Prod.fst)) s'

/-! ## Encounters -/

/-- An encounter with a worker that was called is its turn. -/
theorem meetAll_run {stats : Stats} {looked : List (Looked β)} {x : Encounter σ β}
    (hx : x ∈ meetAll p stats looked s) {answer : Except LinkError Dispatch} {left : β}
    (hf : x.fate = .answered answer left) :
    (p.onReady x.watcher.worker).run x.before = ((answer, left), x.after) := by
  induction looked generalizing stats s with
  | nil => simp [meetAll] at hx
  | cons l looked ih =>
    rw [meetAll, List.mem_cons] at hx
    rcases hx with rfl | hx
    · obtain ⟨w, _ | cause | ⟨⟨⟩⟩⟩ := l
      · simp [meet] at hf
      · simp [meet] at hf
      · simp only [meet, Fate.answered.injEq] at hf
        obtain ⟨rfl, rfl⟩ := hf
        rfl
    · exact ih hx

/-! ## Waiting -/

/-- A watcher on which was noted what collecting its event has come to. -/
abbrev Collected (w w' : Watcher β) : Prop := ∃ outcome, w' = w.collected outcome

theorem Collected.same {w w' : Watcher β} (h : Collected w w') : IsSame w w' := by
  obtain ⟨outcome, rfl⟩ := h
  exact w.collected_same outcome

theorem collectAll_collected (q : Platform δ β) (ws : List (Watcher β)) (s : δ) :
    List.Forall₂ Collected ws ((collectAll q ws).run s).1 := by
  induction ws generalizing s with
  | nil => exact .nil
  | cons w ws ih => exact .cons ⟨_, rfl⟩ (ih _)

/-- Looking at everybody and collecting their events leaves them the same. -/
theorem same_of_collected {looked : List (Looked β)}
    (hl : List.Forall₂ (fun w l => IsSame w l.1) r.watchers looked)
    (hc : List.Forall₂ Collected (looked.map Prod.fst) ws) :
    List.Forall₂ IsSame r.watchers ws := by
  generalize r.watchers = watchers at hl
  induction hl generalizing ws with
  | nil =>
    cases hc
    exact .nil
  | cons hsame _ ih =>
    cases hc with
    | cons hcollected hrest => exact .cons (hsame.trans hcollected.same) (ih hrest)

/-- A wait collects events, or ends the run as it is. -/
theorem Run.wait_run (q : Platform δ β) (r : Run β) (s : δ) :
    (∃ ending, ((r.wait q).run s).1 = .ended ending r.watchers) ∨
      ∃ ws, ((r.wait q).run s).1 = .next { r with watchers := ws } ∧
        List.Forall₂ Collected r.watchers ws := by
  simp only [wait, run_bind]
  cases (q.interruption.run s).1 with
  | some interruption => cases interruption <;> exact .inl ⟨_, rfl⟩
  | none =>
    have hcollected := collectAll_collected q r.watchers (q.interruption.run s).2
    refine .inr ⟨_, ?_, hcollected⟩
    rw [run_bind]
    split <;> rfl

/-! ## A turn -/

variable (p) in
theorem lookAll_logged (ws : List (Watcher β)) (s : σ) (calls : List (Called β)) :
    (lookAll p.logged ws).run (s, calls) =
      (((lookAll p ws).run s).1, (((lookAll p ws).run s).2, calls)) := by
  obtain ⟨hval, hstate⟩ := lookAll_erases p ws (s, calls)
  have hcalls := lookAll_keeps p ws (s, calls)
  generalize (lookAll p.logged ws).run (s, calls) = t at hval hstate hcalls
  obtain ⟨looked, s₁, calls₁⟩ := t
  simp_all

variable (p) in
theorem Run.iterate_logged (r : Run β) (looked : List (Looked β)) (s : σ)
    (calls : List (Called β)) : (r.iterate p.logged looked).run (s, calls) =
      (((r.iterate p looked).run s).1, (((r.iterate p looked).run s).2,
        ((r.iterate p.logged looked).run (s, calls)).2.2)) := by
  obtain ⟨hval, hstate⟩ := Run.iterate_erases p r looked (s, calls)
  rw [← hval, ← hstate]
  rfl

variable (p) in
/-- What serving everybody who was looked at comes to. -/
theorem Run.iterate_run (r : Run β) (looked : List (Looked β)) (s : σ) (calls : List (Called β)) :
    let iterated := (({ r with watchers := looked.map Prod.fst } : Run β).iterate p looked).run s
    let logged :=
      (({ r with watchers := looked.map Prod.fst } : Run β).iterate p.logged looked).run (s, calls)
    let xs := meetAll p r.entered looked s
    List.Forall₂ (Kept p) (xs.filter fun x => x.visit.stays) iterated.1.watchers ∧
      iterated.1.stats = (r.stats.plus { iterations := 1 }).plus (tally (visitsOf xs)) ∧
      iterated.1.lastFailure = (firstLoss xs).or r.lastFailure ∧
      logged.2.2 = calls ++ (visitsOf xs).filterMap Visit.call? := by
  intro iterated logged xs
  obtain ⟨-, hleaves, hcalls, hstats⟩ := serveAll_serves p r.entered looked (s, calls)
  have hval : logged.1 = iterated.1 := (Run.iterate_erases p _ looked (s, calls)).1
  rw [← hval]
  refine ⟨survivors_kept hleaves, ?_, ?_, (reportRemoved_keeps p _ _).trans hcalls⟩
  · have hremoved := removedCount_eq hleaves
    simp only [entered] at hstats hremoved
    simp only [logged, xs, entered, Run.iterate, run_bind, run_pure, hstats, hremoved]
    simp only [Stats.plus, Nat.add_zero]
  · rw [← firstFailure_eq hleaves]
    rfl

/-- An iteration serves whoever was looked at. -/
structure Run.Serving (p : Platform σ β) (r : Run β) (s : σ) (xs : List (Encounter σ β))
    (looked : List (Looked β)) (s₁ : σ) : Prop where
  going : p.stopRequested s = false
  left : r.watchers.isEmpty = false
  ready : (looked.any fun l => l.2.isSome) = true
  look : (lookAll p r.watchers).run s = (looked, s₁)
  met : xs = meetAll p r.entered looked s₁

theorem Run.serving {xs : List (Encounter σ β)} (hx : r.iteration? p s = some xs) :
    ∃ looked s₁, r.Serving p s xs looked s₁ := by
  unfold iteration? at hx
  split at hx
  · rename_i hc
    obtain ⟨hstop, hne, hready⟩ := hc
    exact ⟨_, _, hstop, by simpa using hne, hready, rfl, (Option.some.inj hx).symm⟩
  · cases hx

theorem Run.Serving.turn_run {xs : List (Encounter σ β)} {looked : List (Looked β)} {s₁ : σ}
    (h : r.Serving p s xs looked s₁) : (r.turn p).run s =
      (.next ((({ r with watchers := looked.map Prod.fst } : Run β).iterate p looked).run s₁).1,
        ((({ r with watchers := looked.map Prod.fst } : Run β).iterate p looked).run s₁).2) := by
  rw [Run.turn_run r s h.going h.left h.look, if_pos h.ready]

theorem Run.turn_iterated (hx : r.iteration? p s = some xs) :
    ∃ r' s', (r.turn p).run s = (.next r', s') ∧ Iterated p r s xs r' s' := by
  obtain ⟨looked, s₁, h⟩ := Run.serving hx
  obtain ⟨hkept, hstats, hlast, -⟩ := Run.iterate_run p r looked s₁ []
  have hlooked := (serveAll_serves p r.entered looked (s₁, [])).looked
  have hsame := lookAll_same p r.watchers s
  have hanswers (x : Encounter σ β) (hmem : x ∈ xs) (answer : Except LinkError Dispatch) (left : β)
    (hf : x.fate = .answered answer left) := meetAll_run (h.met ▸ hmem) hf
  rw [h.look] at hsame
  rw [← h.met] at hkept hstats hlast hlooked
  have hready := h.ready
  rw [← hlooked, List.any_map, List.any_eq_true] at hready
  refine ⟨_, _, h.turn_run, h.going, ?_, hready, ?_, ?_, hanswers, hkept, hstats, hlast,
    fun calls => ?_⟩
  · rw [h.look]
    exact hlooked
  · rw [← hlooked, List.forall₂_map_right_iff] at hsame
    exact hsame
  · rw [h.look]
    exact h.met
  · obtain ⟨-, -, -, hcalls⟩ := Run.iterate_run p r looked s₁ calls
    have hlook : (lookAll p.logged r.watchers).run (s, calls) = (looked, (s₁, calls)) := by
      rw [lookAll_logged, h.look]
    rw [Run.turn_run (p := p.logged) r (s, calls) h.going h.left hlook, if_pos h.ready,
      Run.iterate_logged, hcalls, h.met]

/-- If a turn that is not kept from it is no iteration, nobody is ready. -/
theorem Run.not_ready (hstop : p.stopRequested s = false) (hne : r.watchers ≠ [])
    (hx : r.iteration? p s = none) {looked : List (Looked β)} {s₁ : σ}
    (hl : (lookAll p r.watchers).run s = (looked, s₁)) :
    ¬ (looked.any fun l => l.2.isSome) = true := by
  intro hready
  simp [iteration?, hstop, hne, hl, hready] at hx

variable (p) in
theorem Run.turned (r : Run β) (s : σ) :
    Turned p r s ((r.turn p).run s).1 ((r.turn p).run s).2 := by
  cases hstop : p.stopRequested s with
  | true =>
    rw [turn_stopped r hstop]
    exact .stopped hstop
  | false =>
    by_cases hne : r.watchers = []
    · rw [turn_deserted hstop hne]
      exact .deserted hstop hne
    · cases hx : r.iteration? p s with
      | some xs =>
        obtain ⟨r', s', ht, h⟩ := Run.turn_iterated hx
        rw [ht]
        exact .iterated hx h
      | none =>
        obtain ⟨⟨looked, s₁⟩, hl⟩ : ∃ t, (lookAll p r.watchers).run s = t := ⟨_, rfl⟩
        have hready := not_ready hstop hne hx hl
        have hsame := lookAll_same p r.watchers s
        obtain ⟨⟨interruption, s₂⟩, hi⟩ : ∃ t, p.interruption.run s₁ = t := ⟨_, rfl⟩
        rw [turn_run r s hstop (by simpa using hne) hl, if_neg hready, wait, run_bind, hi]
        have hws : looked.map Prod.fst = ((lookAll p r.watchers).run s).1.map Prod.fst := by rw [hl]
        have hs₁ : s₁ = ((lookAll p r.watchers).run s).2 := by rw [hl]
        rcases interruption with _ | ⟨_ | _⟩
        · obtain ⟨⟨ws, s₃⟩, hc⟩ : ∃ t, (collectAll p (looked.map Prod.fst)).run s₂ = t := ⟨_, rfl⟩
          have hcollected := collectAll_collected p (looked.map Prod.fst) s₂
          rw [hc] at hcollected
          rw [hl] at hsame
          have hn : ∀ l ∈ looked, l.2 = none := by simpa using hready
          have hrested (s' : σ) (hs' : s' = if ws.any Watcher.isRoused then s₃
              else ((p.sleep (earliestResume ws)).run s₃).2) : Rested p r s ws s' :=
            ⟨hstop, hne, ⟨looked, s₁, s₂, s₃, hl, hn, hi, hc, hs'⟩,
              same_of_collected hsame hcollected⟩
          simp only [run_bind, hc]
          cases hroused : ws.any Watcher.isRoused with
          | true => exact .rested hx (hrested _ (by rw [hroused]; rfl))
          | false => exact .rested hx (hrested _ (by rw [hroused]; rfl))
        · rw [hs₁] at hi
          simp only [hws]
          exact .noticed hstop hne hx hi
        · rw [hs₁] at hi
          simp only [hws]
          exact .dropped hstop hne hx hi

theorem Run.turn_next (ht : (r.turn p).run s = (.next r', s')) :
    (∃ xs, r.iteration? p s = some xs ∧ Iterated p r s xs r' s') ∨
      (r.iteration? p s = none ∧ ∃ ws, r' = { r with watchers := ws } ∧ Rested p r s ws s') := by
  have hturned := Run.turned p r s
  rw [ht] at hturned
  cases hturned with
  | iterated hx h => exact .inl ⟨_, hx, h⟩
  | rested hx h => exact .inr ⟨hx, _, rfl, h⟩

/-! ## What abides -/

/-- What holds when a worker has answered holds at the end of the iteration. -/
theorem meetAll_abides {P : σ → Prop} (hp : Abides p P) {stats : Stats} {looked : List (Looked β)}
    {x : Encounter σ β} (hx : x ∈ meetAll p stats looked s) (hP : P x.after) :
    P ((serveAll p stats looked).run s).2 := by
  induction looked generalizing stats s with
  | nil => simp [meetAll] at hx
  | cons l looked ih =>
    rw [meetAll, List.mem_cons] at hx
    simp only [serveAll, run_bind, run_pure]
    rcases hx with rfl | hx
    · refine hp.serveAll _ looked _ ?_
      obtain ⟨w, _ | cause | ⟨⟨⟩⟩⟩ := l
      · exact hP
      · exact hp.report _ _ hP
      · exact hp.afterCall stats w hP
    · exact ih hx

theorem Run.Serving.abides {P : σ → Prop} (hp : Abides p P) {xs : List (Encounter σ β)}
    {looked : List (Looked β)} {s₁ : σ} (h : r.Serving p s xs looked s₁)
    (ht : (r.turn p).run s = (.next r', s')) {x : Encounter σ β} (hx : x ∈ xs) (hP : P x.after) :
    P s' := by
  rw [h.turn_run] at ht
  obtain ⟨-, rfl⟩ := Prod.mk.inj ht
  rw [h.met] at hx
  exact hp.reportRemoved _ _ (meetAll_abides hp hx hP)

/-! ## From turn to turn -/

/-- From `c` to `c'` there are `n` turns, with these iterations among them. -/
inductive Reaches (p : Platform σ β) (c : Run β × σ) :
    Nat → List (List (Encounter σ β)) → Run β × σ → Prop where
  | start : Reaches p c 0 [] c
  | turn {n : Nat} {its : List (List (Encounter σ β))} {r r' : Run β} {s s' : σ}
    (h : Reaches p c n its (r, s)) (ht : (r.turn p).run s = (.next r', s')) :
    Reaches p c (n + 1) (its ++ (r.iteration? p s).toList) (r', s')

variable {n : Nat} {its : List (List (Encounter σ β))} {c c' : Run β × σ}

/-- A run remembers the first failure of the last iteration that had any. -/
theorem Reaches.lastFailure (h : Reaches p c n its c') :
    c'.1.lastFailure = (its.reverse.findSome? firstLoss).or c.1.lastFailure := by
  induction h with
  | start => rfl
  | @turn n its r r' s s' h ht ih =>
    rcases Run.turn_next ht with ⟨xs, hx, hi⟩ | ⟨hx, ws, rfl, -⟩
    · rw [hx, hi.lastFailure, ih]
      cases hloss : firstLoss xs <;> simp [hloss]
    · rw [hx, ih]
      simp

/-- The turns are turns of the loop. -/
theorem Reaches.loop_eq (h : Reaches p c n its c') (fuel : Nat) :
    (Run.loop p (n + fuel) c.1).run c.2 = (Run.loop p fuel c'.1).run c'.2 := by
  induction h generalizing fuel with
  | start => rw [Nat.zero_add]
  | @turn n its r r' s s' h ht ih =>
    rw [Nat.add_assoc, Nat.add_comm 1 fuel, ih (fuel + 1), Run.loop, run_bind, ht]

/-- A run comes to a turn that ends it, or takes all its turns. -/
theorem reaches_end (p : Platform σ β) (c : Run β × σ) (fuel : Nat) :
    (∃ n its r s ending ws s', n < fuel ∧ Reaches p c n its (r, s) ∧
        (r.turn p).run s = (.ended ending ws, s')) ∨ ∃ its c', Reaches p c fuel its c' := by
  induction fuel with
  | zero => exact .inr ⟨_, _, .start⟩
  | succ fuel ih =>
    rcases ih with ⟨n, its, r, s, ending, ws, s', hn, h, ht⟩ | ⟨its, ⟨r, s⟩, h⟩
    · exact .inl ⟨n, its, r, s, ending, ws, s', by omega, h, ht⟩
    · obtain ⟨⟨t, s'⟩, ht⟩ : ∃ t, (r.turn p).run s = t := ⟨_, rfl⟩
      cases t with
      | ended ending ws => exact .inl ⟨fuel, its, r, s, ending, ws, s', by omega, h, ht⟩
      | next r' => exact .inr ⟨_, _, h.turn ht⟩

/-- A turn that ends the run decides how the loop ends. -/
theorem Reaches.loop_ended (h : Reaches p c n its (r, s)) {ending : Ending}
    {ws : List (Watcher β)} (ht : (r.turn p).run s = (.ended ending ws, s')) {fuel : Nat}
    (hn : n < fuel) : (Run.loop p fuel c.1).run c.2 = ((ending, ws), s') := by
  have hfuel : n + (fuel - n - 1 + 1) = fuel := by omega
  rw [← hfuel, h.loop_eq, Run.loop, run_bind, ht]
  rfl

theorem Reaches.loop_spent (h : Reaches p c n its (r, s)) :
    (Run.loop p n c.1).run c.2 = ((.abandoned, r.watchers), s) := by
  have hloop := h.loop_eq 0
  rw [Nat.add_zero] at hloop
  rw [hloop]
  rfl

/-- An element of a longer history is an old one or a new one. -/
theorem append_eq_append_cons_iff {α : Type} {past new earlier later : List α} {e : α} :
    past ++ new = earlier ++ e :: later ↔
      (∃ before, past = earlier ++ e :: before ∧ later = before ++ new) ∨
        ∃ before, earlier = past ++ before ∧ new = before ++ e :: later := by
  constructor
  · intro h
    rcases List.append_eq_append_iff.mp h with ⟨before, rfl, rfl⟩ | ⟨tail, rfl, htail⟩
    · exact .inr ⟨before, rfl, rfl⟩
    · cases tail with
      | nil => exact .inr ⟨[], by simp, by simpa using htail.symm⟩
      | cons e' before =>
        obtain ⟨rfl, rfl⟩ := List.cons.inj htail
        exact .inl ⟨before, rfl, rfl⟩
  · rintro (⟨before, rfl, rfl⟩ | ⟨before, rfl, rfl⟩) <;> simp

/-- Every iteration has its place in the run. -/
theorem Reaches.split (h : Reaches p c n its c') {earlier later : List (List (Encounter σ β))}
    {xs : List (Encounter σ β)} (hits : its = earlier ++ xs :: later) :
    ∃ m k r s r' s', Reaches p c m earlier (r, s) ∧ r.iteration? p s = some xs ∧
      (r.turn p).run s = (.next r', s') ∧ Reaches p (r', s') k later c' ∧ n = m + 1 + k := by
  induction h generalizing earlier later with
  | start => simp at hits
  | @turn n its r r' s s' h ht ih =>
    rcases append_eq_append_cons_iff.mp hits with ⟨before, rfl, rfl⟩ | ⟨before, rfl, hnew⟩
    · obtain ⟨m, k, r₁, s₁, r₂, s₂, hm, hx, ht₁, hk, rfl⟩ := ih rfl
      exact ⟨m, k + 1, r₁, s₁, r₂, s₂, hm, hx, ht₁, hk.turn ht, by omega⟩
    · cases hx : r.iteration? p s with
      | none => simp [hx] at hnew
      | some ys =>
        obtain ⟨rfl, rfl, rfl⟩ : before = [] ∧ xs = ys ∧ later = [] := by
          simpa [hx, List.singleton_eq_append_iff] using hnew
        exact ⟨n, 0, r, s, r', s', by simpa using h, hx, ht, .start, rfl⟩

/-- A turn that is no iteration calls nobody. -/
theorem Run.turn_keeps_of_none (hx : r.iteration? p s = none) (calls : List (Called β)) :
    ((r.turn p.logged).run (s, calls)).2.2 = calls := by
  cases hstop : p.stopRequested s with
  | true => rw [Run.turn_stopped (p := p.logged) r (s := (s, calls)) hstop]
  | false =>
    by_cases hne : r.watchers = []
    · rw [Run.turn_deserted (p := p.logged) (s := (s, calls)) hstop hne]
    · obtain ⟨⟨looked, s₁⟩, hl⟩ : ∃ t, (lookAll p r.watchers).run s = t := ⟨_, rfl⟩
      have hlook := lookAll_logged p r.watchers s calls
      rw [hl] at hlook
      rw [Run.turn_run (p := p.logged) r (s, calls) hstop (by simpa using hne) hlook,
        if_neg (not_ready hstop hne hx hl)]
      exact Run.wait_keeps p _ _

/-- What iterations called. -/
def callsOf (its : List (List (Visit β))) : List (Called β) := its.flatten.filterMap Visit.call?

/-- The calls on the list are those of the iterations. -/
theorem Reaches.loop_logged (h : Reaches p c n its c') (fuel : Nat) (calls : List (Called β)) :
    (Run.loop p.logged (n + fuel) c.1).run (c.2, calls) =
      (Run.loop p.logged fuel c'.1).run (c'.2, calls ++ callsOf (its.map visitsOf)) := by
  induction h generalizing fuel with
  | start => simp [callsOf]
  | @turn n its r r' s s' h ht ih =>
    rw [Nat.add_assoc, Nat.add_comm 1 fuel, ih (fuel + 1), Run.loop, run_bind]
    rcases Run.turn_next ht with ⟨xs, hx, hi⟩ | ⟨hx, -, -⟩
    · rw [hi.logged, hx]
      simp [callsOf]
    · obtain ⟨hval, hstate⟩ := Run.turn_erases p r (s, calls ++ callsOf (its.map visitsOf))
      have hcalls := Run.turn_keeps_of_none hx (calls ++ callsOf (its.map visitsOf))
      generalize (r.turn p.logged).run (s, calls ++ callsOf (its.map visitsOf)) = t at *
      obtain ⟨t, s₁, calls₁⟩ := t
      simp only [ht] at hval hstate
      simp only at hcalls
      subst hval hstate hcalls
      rw [hx]
      simp

end PacketLink.Reactor
