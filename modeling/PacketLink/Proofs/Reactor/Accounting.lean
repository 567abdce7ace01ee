import Mathlib.Data.List.Induction
import PacketLink.Proofs.Reactor.History

/-!
# What a run calls and counts

* `Reaches.balanced`: what the counters of a run tell about its iterations.
* `Occasion` and `assembled`: watchers after any registrations and runs.
* `Accounted`: what a run of watchers is. Each of its turns is an iteration, a wait or its end, as
  looking at everybody has found them (`Turned`), and its counters are those of its iterations.
* `dispatch_accurate`: however registrations and runs follow each other, every descriptor has one
  watcher, and every run is accounted for.
-/

namespace PacketLink.Reactor

variable {σ β : Type} {p : Platform σ β} {r r' : Run β} {s s' : σ} {n : Nat}
  {its : List (List (Encounter σ β))} {xs : List (Encounter σ β)} {c c' : Run β × σ}

/-! ## Balances -/

theorem iterations_tally (visits : List (Visit β)) : (tally visits).iterations = 0 := by
  induction visits with
  | nil => rfl
  | cons v visits ih =>
    have hv : v.2.credit.iterations = 0 := by
      obtain ⟨w, fate⟩ := v
      match fate with
      | .waited | .failed _ => rfl
      | .answered (.ok dispatch) _ => cases dispatch <;> rfl
      | .answered (.error e) _ => cases he : e.isResource <;> simp [Fate.credit, he]
    show v.2.credit.iterations + (tally visits).iterations = 0
    rw [hv, ih]

theorem dispatched_tally (visits : List (Visit β)) :
    (tally visits).dispatched = visits.countP fun v => v.2.isCalled := by
  induction visits with
  | nil => rfl
  | cons v visits ih =>
    have hv : v.2.credit.dispatched = if v.2.isCalled then 1 else 0 := by
      obtain ⟨w, fate⟩ := v
      match fate with
      | .waited | .failed _ => rfl
      | .answered (.ok dispatch) _ => cases dispatch <;> rfl
      | .answered (.error e) _ => cases he : e.isResource <;> simp [Fate.credit, Fate.isCalled, he]
    show v.2.credit.dispatched + (tally visits).dispatched = _
    rw [hv, ih, List.countP_cons, Nat.add_comm]

theorem deregistered_tally (visits : List (Visit β)) :
    (tally visits).deregistered + visits.countP Visit.stays = visits.length := by
  induction visits with
  | nil => rfl
  | cons v visits ih =>
    have hv := deregistered_credit v.2
    show v.2.credit.deregistered + (tally visits).deregistered + _ = _
    rw [hv, List.countP_cons, List.length_cons, ← ih, Visit.stays]
    cases v.2.failure <;> simp <;> omega

/-- Every call and every failed wait shows in one of the other counters. -/
theorem balance_tally (visits : List (Visit β)) :
    (tally visits).dispatched + visits.countP (fun v => v.2.isFailed) =
      (tally visits).handled + (tally visits).idle + (tally visits).paused +
        (tally visits).frameErrors + (tally visits).deregistered := by
  induction visits with
  | nil => rfl
  | cons v visits ih =>
    have hv : v.2.credit.dispatched + (if v.2.isFailed then 1 else 0) =
        v.2.credit.handled + v.2.credit.idle + v.2.credit.paused + v.2.credit.frameErrors +
          v.2.credit.deregistered := by
      obtain ⟨w, fate⟩ := v
      match fate with
      | .waited | .failed _ => rfl
      | .answered (.ok dispatch) _ => cases dispatch <;> rfl
      | .answered (.error e) _ => cases he : e.isResource <;> simp [Fate.credit, Fate.isFailed, he]
    rw [List.countP_cons]
    simp only [tally, List.foldr_cons, Stats.plus] at ih ⊢
    omega

theorem ready_of_look {visits : List (Visit β)} (h : ∃ v ∈ visits, v.2.look.isSome = true) :
    1 ≤ (visits.countP fun v => v.2.isCalled) + visits.countP fun v => v.2.isFailed := by
  obtain ⟨v, hv, hsome⟩ := h
  cases hf : v.2 with
  | waited =>
    rw [hf] at hsome
    cases hsome
  | failed cause =>
    have hpos : 0 < visits.countP fun v => v.2.isFailed :=
      List.countP_pos_iff.mpr ⟨v, hv, by rw [hf]; rfl⟩
    omega
  | answered answer left =>
    have hpos : 0 < visits.countP fun v => v.2.isCalled :=
      List.countP_pos_iff.mpr ⟨v, hv, by rw [hf]; rfl⟩
    omega

theorem Iterated.length_eq (h : Iterated p r s xs r' s') :
    r.watchers.length = r'.watchers.length + (tally (visitsOf xs)).deregistered := by
  have hstays : (xs.filter fun x => x.visit.stays).length = (visitsOf xs).countP Visit.stays := by
    rw [← List.countP_eq_length_filter, visitsOf, List.countP_map]
    rfl
  have htally := deregistered_tally (visitsOf xs)
  have hlength : (visitsOf xs).length = xs.length := List.length_map ..
  rw [h.same.length_eq, ← h.kept.length_eq, hstays]
  omega

/-- What the counters of a run tell about its iterations. -/
structure Balanced (r : Run β) (its : List (List (Visit β))) (r' : Run β) : Prop where
  stats : r'.stats = (r.stats.plus { iterations := its.length }).plus (tally its.flatten)
  length : r.watchers.length = r'.watchers.length + (tally its.flatten).deregistered
  progress : its.length ≤ (its.flatten.countP fun v => v.2.isCalled) +
    its.flatten.countP fun v => v.2.isFailed

theorem Balanced.iterate {its : List (List (Visit β))} {r₀ : Run β} (h : Balanced r₀ its r)
    (hi : Iterated p r s xs r' s') : Balanced r₀ (its ++ [visitsOf xs]) r' := by
  have hflat : (its ++ [visitsOf xs]).flatten = its.flatten ++ visitsOf xs := by simp
  refine ⟨?_, ?_, ?_⟩
  · rw [hi.stats, h.stats, hflat, tally_append]
    simp only [Stats.plus, List.length_append, List.length_singleton, Nat.add_zero]
    simp only [Nat.add_assoc, Nat.add_comm, Nat.add_left_comm]
  · rw [h.length, hi.length_eq, hflat, tally_append]
    simp only [Stats.plus]
    omega
  · obtain ⟨x, hx, hsome⟩ := hi.ready
    have hvisit : x.visit ∈ visitsOf xs := List.mem_map.mpr ⟨x, hx, rfl⟩
    have hready := ready_of_look ⟨x.visit, hvisit, hsome⟩
    have hprogress := h.progress
    rw [hflat, List.countP_append, List.countP_append, List.length_append, List.length_singleton]
    omega

theorem Reaches.balanced (h : Reaches p c n its c') :
    Balanced c.1 (its.map visitsOf) c'.1 := by
  induction h with
  | start => exact ⟨rfl, rfl, Nat.zero_le _⟩
  | turn h ht ih =>
    rcases Run.turn_next ht with ⟨xs, hx, hi⟩ | ⟨hx, ws, rfl, hrested⟩
    · rw [hx, Option.toList_some, List.map_append, List.map_singleton]
      exact ih.iterate hi
    · rw [hx, Option.toList_none, List.append_nil]
      exact ⟨ih.stats, ih.length.trans (by rw [hrested.same.length_eq]), ih.progress⟩

/-! ## Descriptors -/

/-- The watchers that stay keep their order. -/
theorem Iterated.sublist (h : Iterated p r s xs r' s') :
    (r'.watchers.map (·.descriptor)).Sublist (r.watchers.map (·.descriptor)) := by
  have hkept : (xs.filter fun x => x.visit.stays).map (·.watcher.descriptor) =
      r'.watchers.map (·.descriptor) :=
    map_eq_map_of_forall₂ (h.kept.imp fun _ _ hk => hk.descriptor_eq.symm)
  rw [← hkept, ← h.descriptors_eq]
  exact List.filter_sublist.map _

theorem Turned.sublist {t : Turn β} (h : Turned p r s t s') :
    (t.watchers.map (·.descriptor)).Sublist (r.watchers.map (·.descriptor)) := by
  have hlooked : (((lookAll p r.watchers).run s).1.map Prod.fst).map (·.descriptor) =
      r.watchers.map (·.descriptor) := by
    rw [List.map_map]
    exact (map_eq_map_of_forall₂ ((lookAll_same p r.watchers s).imp
      fun _ _ hs => hs.descriptor.symm)).symm
  cases h with
  | stopped => exact .refl _
  | deserted => exact List.nil_sublist _
  | iterated _ h => exact h.sublist
  | rested _ h => exact h.descriptors_eq ▸ .refl _
  | noticed => exact hlooked ▸ .refl _
  | dropped => exact hlooked ▸ .refl _

theorem Run.turn_sublist {t : Turn β} (ht : (r.turn p).run s = (t, s')) :
    (t.watchers.map (·.descriptor)).Sublist (r.watchers.map (·.descriptor)) := by
  have hturned := Run.turned p r s
  rw [ht] at hturned
  exact hturned.sublist

theorem Reaches.descriptors_sublist (h : Reaches p c n its c') :
    (c'.1.watchers.map (·.descriptor)).Sublist (c.1.watchers.map (·.descriptor)) := by
  induction h with
  | start => exact .refl _
  | turn _ ht ih => exact (Run.turn_sublist ht).trans ih

/-! ## Registrations and runs -/

/-- What can be asked of the loop. -/
inductive Occasion (σ β : Type) where
  | register (w : Watcher β)
  /-- A run, which starts in these surroundings, and is given up if it takes more turns. -/
  | run (turns : Nat) (s : σ)

/-- The watchers that are left. -/
def Occasion.after (p : Platform σ β) (ws : List (Watcher β)) : Occasion σ β → List (Watcher β)
  | .register w =>
    match Reactor.register ws w with
    | .ok ws' => ws'
    | .error _ => ws
  | .run turns s => ((Reactor.run p turns ws).run s).1.2

/-- The watchers after registrations and runs, in any order. -/
def assembled (p : Platform σ β) (past : List (Occasion σ β)) : List (Watcher β) :=
  past.foldl (Occasion.after p) []

/-- What holds of a run of these watchers that comes in `n` turns, with these iterations, to the
place where it ends. -/
structure Accounted (p : Platform σ β) (ws : List (Watcher β)) (turns : Nat) (s₀ : σ) (n : Nat)
    (its : List (List (Encounter σ β))) (r : Run β) (s : σ) : Prop where
  reaches : Reaches p ({ watchers := ws }, s₀) n its (r, s)
  /-- A turn that is not kept from it calls whoever is ready, once and in order, and removes whoever
  fails. -/
  turned : ∀ m earlier r₁ s₁, Reaches p ({ watchers := ws }, s₀) m earlier (r₁, s₁) →
    Turned p r₁ s₁ ((r₁.turn p).run s₁).1 ((r₁.turn p).run s₁).2
  iteration : ∀ earlier xs later, its = earlier ++ xs :: later → ∃ m r₁ s₁ r₂ s₂,
    Reaches p ({ watchers := ws }, s₀) m earlier (r₁, s₁) ∧
      (r₁.turn p).run s₁ = (.next r₂, s₂) ∧ Iterated p r₁ s₁ xs r₂ s₂
  /-- The run has taken all its turns, or its next turn ends it. -/
  ends : (n = turns ∧ (run p turns ws).run s₀ = ((.abandoned, r.watchers), s)) ∨
    n < turns ∧ ∃ ending left s', (r.turn p).run s = (.ended ending left, s') ∧
      (run p turns ws).run s₀ = ((ending, left), s')
  calls : ((run p.logged turns ws).run (s₀, [])).2.2 = callsOf (its.map visitsOf)
  reported : ∀ stats, ((run p turns ws).run s₀).1.1 = .finished stats → stats = r.stats
  iterations : r.stats.iterations = its.length
  dispatched : r.stats.dispatched = (callsOf (its.map visitsOf)).length
  /-- Every call and every failed wait shows in one of the other counters. -/
  balance : r.stats.dispatched + (its.map visitsOf).flatten.countP (fun v => v.2.isFailed) =
    r.stats.handled + r.stats.idle + r.stats.paused + r.stats.frameErrors + r.stats.deregistered
  length : ws.length = ((run p turns ws).run s₀).1.2.length + r.stats.deregistered
  progress : r.stats.iterations ≤
    r.stats.dispatched + (its.map visitsOf).flatten.countP fun v => v.2.isFailed

/-- What holds of the loop after registrations and runs. -/
structure Accurate (p : Platform σ β) (past : List (Occasion σ β)) : Prop where
  /-- Every descriptor has one watcher. -/
  distinct : ((assembled p past).map (·.descriptor)).Nodup
  accepted : ∀ w, w.descriptor ∉ (assembled p past).map (·.descriptor) →
    assembled p (past ++ [.register w]) = assembled p past ++ [w]
  /-- A watcher of a descriptor that is watched is refused, and nothing changes. -/
  refused : ∀ w, w.descriptor ∈ (assembled p past).map (·.descriptor) →
    register (assembled p past) w = .error (.configuration "descriptor N is already watched") ∧
      assembled p (past ++ [.register w]) = assembled p past
  /-- Keeping a list of the calls changes nothing. -/
  unlogged : ∀ turns, Erases (Reactor.run p.logged turns (assembled p past))
    (Reactor.run p turns (assembled p past))
  runs : ∀ turns s₀, ∃ n its r s, Accounted p (assembled p past) turns s₀ n its r s

theorem length_callsOf (its : List (List (Visit β))) :
    (callsOf its).length = its.flatten.countP fun v => v.2.isCalled := by
  rw [callsOf, List.length_filterMap_eq_countP]
  refine List.countP_congr fun v _ => ?_
  obtain ⟨w, fate⟩ := v
  cases fate <;> rfl

/-- How the turn that ends a run leaves the counters and the watchers. -/
theorem Turned.ended {ending : Ending} {left : List (Watcher β)}
    (h : Turned p r s (.ended ending left) s') : left.length = r.watchers.length ∧
      ∀ stats, ending = .finished stats → stats = r.stats := by
  have hlooked : (((lookAll p r.watchers).run s).1.map Prod.fst).length = r.watchers.length := by
    rw [List.length_map, (lookAll_same p r.watchers s).length_eq]
  cases h with
  | stopped => exact ⟨rfl, fun stats he => by cases he; rfl⟩
  | deserted _ hr => exact ⟨by rw [hr], fun _ => Run.stats_of_upshot⟩
  | noticed => exact ⟨hlooked, fun stats he => by cases he; rfl⟩
  | dropped => exact ⟨hlooked, nofun⟩

/-- A run that has taken all its turns, or has come to the turn that ends it, has called whom its
iterations called. -/
theorem Reaches.calls {ws : List (Watcher β)} {s₀ : σ} {turns : Nat}
    (h : Reaches p ({ watchers := ws }, s₀) n its (r, s)) (hend : n = turns ∨
      n < turns ∧ ∃ ending ws' s', (r.turn p).run s = (.ended ending ws', s')) :
    ((run p.logged turns ws).run (s₀, [])).2.2 = callsOf (its.map visitsOf) := by
  rcases hend with rfl | ⟨hn, ending, ws', s', ht⟩
  · have hloop := h.loop_logged 0 []
    rw [run, ← Nat.add_zero n, hloop]
    rfl
  · have hnone : r.iteration? p s = none := by
      cases hx : r.iteration? p s with
      | none => rfl
      | some xs =>
        obtain ⟨r', s', ht', -⟩ := Run.turn_iterated hx
        cases ht.symm.trans ht'
    have hfuel : n + (turns - n - 1 + 1) = turns := by omega
    have hcalls := Run.turn_keeps_of_none hnone (callsOf (its.map visitsOf))
    obtain ⟨hval, -⟩ := Run.turn_erases p r (s, callsOf (its.map visitsOf))
    rw [ht] at hval
    rw [run, ← hfuel, h.loop_logged, Run.loop, run_bind, List.nil_append, hval]
    exact hcalls

/-- What a run leaves has the size and the counters of the place where it ends. -/
theorem Run.left_of_ends {ws : List (Watcher β)} {s₀ : σ} {turns : Nat}
    (hends : (n = turns ∧ (Reactor.run p turns ws).run s₀ = ((.abandoned, r.watchers), s)) ∨
      n < turns ∧ ∃ ending left s', (r.turn p).run s = (.ended ending left, s') ∧
        (Reactor.run p turns ws).run s₀ = ((ending, left), s')) :
    ((Reactor.run p turns ws).run s₀).1.2.length = r.watchers.length ∧
      ∀ stats, ((Reactor.run p turns ws).run s₀).1.1 = .finished stats → stats = r.stats := by
  rcases hends with ⟨-, hrun⟩ | ⟨-, ending, left, s', ht, hrun⟩
  · rw [hrun]
    exact ⟨rfl, fun _ he => by cases he⟩
  · have hturned := Run.turned p r s
    rw [ht] at hturned
    rw [hrun]
    exact hturned.ended

/-- A run that ends like this is accounted for. -/
theorem Reaches.accounted {ws : List (Watcher β)} {s₀ : σ} {turns : Nat}
    (h : Reaches p ({ watchers := ws }, s₀) n its (r, s))
    (hends : (n = turns ∧ (run p turns ws).run s₀ = ((.abandoned, r.watchers), s)) ∨
      n < turns ∧ ∃ ending left s', (r.turn p).run s = (.ended ending left, s') ∧
        (run p turns ws).run s₀ = ((ending, left), s')) :
    Accounted p ws turns s₀ n its r s := by
  obtain ⟨hstats, hlength, hprogress⟩ := h.balanced
  simp only [Stats.plus, Nat.zero_add, List.length_map] at hstats hlength hprogress
  have hdispatched : r.stats.dispatched =
      (its.map visitsOf).flatten.countP fun v => v.2.isCalled := by
    rw [hstats, dispatched_tally]
  have hiterations : r.stats.iterations = its.length := by
    rw [hstats, iterations_tally, Nat.add_zero]
  have hbalance := balance_tally (its.map visitsOf).flatten
  obtain ⟨hleft, hreported⟩ := Run.left_of_ends hends
  refine ⟨h, fun _ _ r₁ s₁ _ => Run.turned p r₁ s₁, fun earlier xs later hits => ?_, hends,
    h.calls ?_, hreported, hiterations, ?_, ?_, ?_, ?_⟩
  · obtain ⟨m, k, r₁, s₁, r₂, s₂, hm, hx, ht, -⟩ := h.split hits
    obtain ⟨r₂', s₂', ht', hi⟩ := Run.turn_iterated hx
    cases ht.symm.trans ht'
    exact ⟨m, r₁, s₁, r₂, s₂, hm, ht, hi⟩
  · rcases hends with ⟨hn, -⟩ | ⟨hn, ending, left, s', ht, -⟩
    · exact .inl hn
    · exact .inr ⟨hn, ending, left, s', ht⟩
  · rw [hdispatched, length_callsOf]
  · rw [hstats]
    exact hbalance
  · rw [hleft, hstats]
    exact hlength
  · rw [hiterations, hdispatched]
    exact hprogress

theorem run_accounted (p : Platform σ β) (ws : List (Watcher β)) (turns : Nat) (s₀ : σ) :
    ∃ n its r s, Accounted p ws turns s₀ n its r s := by
  rcases reaches_end p ({ watchers := ws }, s₀) turns with
    ⟨n, its, r, s, ending, left, s', hn, h, ht⟩ | ⟨its, ⟨r, s⟩, h⟩
  · exact ⟨n, its, r, s, h.accounted (.inr ⟨hn, ending, left, s', ht, h.loop_ended ht hn⟩)⟩
  · exact ⟨turns, its, r, s, h.accounted (.inl ⟨rfl, h.loop_spent⟩)⟩

theorem register_of_mem {ws : List (Watcher β)} {w : Watcher β}
    (h : w.descriptor ∈ ws.map (·.descriptor)) :
    register ws w = .error (.configuration "descriptor N is already watched") := by
  obtain ⟨other, ho, he⟩ := List.mem_map.mp h
  exact if_pos (List.any_eq_true.mpr ⟨other, ho, decide_eq_true he⟩)

theorem register_of_not_mem {ws : List (Watcher β)} {w : Watcher β}
    (h : w.descriptor ∉ ws.map (·.descriptor)) : register ws w = .ok (ws ++ [w]) := by
  refine if_neg fun hany => h ?_
  obtain ⟨other, ho, he⟩ := List.any_eq_true.mp hany
  exact List.mem_map.mpr ⟨other, ho, of_decide_eq_true he⟩

theorem assembled_append (p : Platform σ β) (past : List (Occasion σ β)) (o : Occasion σ β) :
    assembled p (past ++ [o]) = o.after p (assembled p past) := by
  simp only [assembled, List.foldl_append, List.foldl_cons, List.foldl_nil]

/-- The watchers that a run leaves keep their order. -/
theorem run_sublist (turns : Nat) (ws : List (Watcher β)) (s : σ) :
    (((run p turns ws).run s).1.2.map (·.descriptor)).Sublist (ws.map (·.descriptor)) := by
  obtain ⟨n, its, r, s', ha⟩ := run_accounted p ws turns s
  have hsublist := ha.reaches.descriptors_sublist
  rcases ha.ends with ⟨-, hrun⟩ | ⟨-, ending, left, s'', ht, hrun⟩
  · rw [hrun]
    exact hsublist
  · rw [hrun]
    exact (Run.turn_sublist ht).trans hsublist

theorem assembled_nodup (p : Platform σ β) (past : List (Occasion σ β)) :
    ((assembled p past).map (·.descriptor)).Nodup := by
  induction past using List.reverseRecOn with
  | nil => exact .nil
  | append_singleton past o ih =>
    rw [assembled_append]
    cases o with
    | register w =>
      by_cases hw : w.descriptor ∈ (assembled p past).map (·.descriptor)
      · simp only [Occasion.after, register_of_mem hw]
        exact ih
      · simp only [Occasion.after, register_of_not_mem hw]
        rw [List.map_append, List.map_singleton]
        refine List.nodup_append.mpr ⟨ih, List.pairwise_singleton _ _, ?_⟩
        rintro d hd d' hd' rfl
        exact hw (List.mem_singleton.mp hd' ▸ hd)
    | run turns s =>
      exact (run_sublist turns _ s).nodup ih

/-- However registrations and runs follow each other, the loop calls and counts right. -/
theorem dispatch_accurate (p : Platform σ β) (past : List (Occasion σ β)) : Accurate p past where
  distinct := assembled_nodup p past
  accepted w hw := by
    rw [assembled_append]
    simp only [Occasion.after, register_of_not_mem hw]
  refused w hw := by
    refine ⟨register_of_mem hw, ?_⟩
    rw [assembled_append]
    simp only [Occasion.after, register_of_mem hw]
  unlogged turns := Run.loop_erases p turns _
  runs := run_accounted p (assembled p past)

end PacketLink.Reactor
