import PacketLink.Proofs.Reactor.Rehearsal
import PacketLink.Proofs.Reactor.Turns

/-!
# No wakeup is lost

A watcher learns that its descriptor is ready by an event, which is collected once, or by a probe.
Whatever the loop, the workers and the datagrams that arrive do, a watcher whose descriptor is ready
is armed, pauses, or has an event.

* `Reachable`: watchers that were registered at any time and had any number of turns, in any number
  of runs, with anything arriving in between.
* `Blocks`: a turn that lets time pass, as nobody is ready and no event is there to act on.
* `wakeup_not_lost`: in everything that can be reached no wakeup is lost, also between two calls of
  one turn; and when the loop blocks, the descriptors are drained.
* `wakeup_collected_pair`: between two calls of one turn this does not hold of those whose calls are
  still to come. Their events were collected when the turn began.
-/

namespace PacketLink.Reactor

variable {σ β : Type} {p : Platform σ β} {v : View σ β} {ds : List Nat} {s s' : σ} {w : Watcher β}

/-! ## What can be reached -/

/-- A watcher that is registered: its descriptor has an event if it is ready, and nothing was read
from it before. -/
structure Registered (v : View σ β) (s : σ) (w : Watcher β) : Prop where
  serves : v.serves w.worker w.descriptor w.readiness
  armed : w.armed = false
  resumeAt : w.resumeAt = none
  event : v.level s w.descriptor w.readiness → v.pending s w.descriptor w.readiness
  unread : v.isReader w.descriptor →
    v.handled s w.descriptor + v.waiting s w.descriptor = v.arrived s w.descriptor

/-- Watchers and surroundings after any number of registrations, turns and arrivals, with the number
of turns of workers that the counters of all runs have as handled. Only the descriptors `ds` are
ever watched. A run is given up wherever no turn of it follows, and resumed by a turn of another
run of the same watchers. -/
inductive Reachable (p : Platform σ β) (v : View σ β) (ds : List Nat) :
    List (Watcher β) → σ → Nat → Prop where
  | start (s : σ) : Reachable p v ds [] s (v.total ds s)
  | register {ws ws' : List (Watcher β)} {w : Watcher β} {s : σ} {n : Nat}
      (h : Reachable p v ds ws s n) (hd : w.descriptor ∈ ds) (hw : Registered v s w)
      (hr : register ws w = .ok ws') : Reachable p v ds ws' s n
  | arrive {ws : List (Watcher β)} {s s' : σ} {n : Nat} (h : Reachable p v ds ws s n)
      (hq : ∀ d r, v.Quiet d r s s') : Reachable p v ds ws s' n
  | turn {r : Run β} {t : Turn β} {s s' : σ} {n : Nat} (h : Reachable p v ds r.watchers s n)
      (ht : (r.turn p).run s = (t, s')) : Reachable p v ds t.watchers s' (n + r.handledIn t)

theorem Inv.register {ws ws' : List (Watcher β)} (hi : Inv v ds s ws) (hd : w.descriptor ∈ ds)
    (hw : Registered v s w) (hr : register ws w = .ok ws') : Inv v ds s ws' := by
  unfold Reactor.register at hr
  by_cases hany : (ws.any fun other => other.descriptor = w.descriptor) = true
  · rw [if_pos hany] at hr
    cases hr
  · rw [if_neg hany] at hr
    cases hr
    refine ⟨?_, ?_, fun w' hw' => ?_⟩
    · rw [List.map_append, List.nodup_append]
      refine ⟨hi.distinct, List.pairwise_singleton _ _, fun d hd d' hd' he => hany ?_⟩
      obtain ⟨other, ho, rfl⟩ := List.mem_map.mp hd
      refine List.any_eq_true.mpr ⟨other, ho, ?_⟩
      rw [decide_eq_true_eq, he]
      exact List.mem_singleton.mp hd'
    · rw [List.map_append]
      exact List.append_subset.mpr ⟨hi.places, List.cons_subset.mpr ⟨hd, nofun⟩⟩
    · rcases List.mem_append.mp hw' with hold | hnew
      · exact hi.sound w' hold
      · cases List.mem_singleton.mp hnew
        refine ⟨⟨hw.serves, hw.unread⟩, fun hx => ?_, fun hl => ?_⟩
        · rw [hw.armed] at hx
          cases hx.1
        · exact .inr (.inr (.inr (hw.event hl)))

theorem Reachable.inv (hp : Laws p v) {ws : List (Watcher β)} {n : Nat}
    (h : Reachable p v ds ws s n) : Inv v ds s ws := by
  induction h with
  | start s => exact ⟨.nil, nofun, nofun⟩
  | register _ hd hw hr ih => exact ih.register hd hw hr
  | arrive _ hq ih => exact ih.quiet hq
  | turn _ ht ih => exact Run.turn_inv hp ih ht

/-- If all descriptors have readers, all that was handled is in the counters of the runs. -/
theorem Reachable.total_eq (hp : Laws p v) (hread : v.AllRead ds) (hn : ds.Nodup)
    {ws : List (Watcher β)} {n : Nat} (h : Reachable p v ds ws s n) : v.total ds s = n := by
  induction h with
  | start s => rfl
  | register _ _ _ _ ih => exact ih
  | arrive _ hq ih => exact (View.total_congr fun d _ => (hq d .readable).unread.handled).trans ih
  | turn h ht ih => rw [Run.turn_total hp hread hn (h.inv hp) ht, ih]

/-- Whatever a run comes to can be reached. -/
theorem Reachable.loop {r : Run β} {n : Nat} (h : Reachable p v ds r.watchers s n) (fuel : Nat) :
    ∃ n', Reachable p v ds ((Run.loop p fuel r).run s).1.2 ((Run.loop p fuel r).run s).2 n' := by
  induction fuel generalizing r s n with
  | zero => exact ⟨n, h⟩
  | succ fuel ih =>
    obtain ⟨⟨t, s₁⟩, ht⟩ : ∃ t, (r.turn p).run s = t := ⟨_, rfl⟩
    have h₁ := h.turn ht
    simp only [Run.loop, run_bind, ht]
    cases t with
    | ended ending ws => exact ⟨_, h₁⟩
    | next r' => exact ih h₁

/-! ## Blocking -/

/-- A turn from `s` comes to the point, in `s'`, where it lets time pass: it was not asked to stop,
nobody was ready, and no event was found that can be acted on. -/
structure Blocks (p : Platform σ β) (r : Run β) (s : σ) (ws : List (Watcher β)) (s' : σ) :
    Prop where
  running : p.stopRequested s = false
  watched : r.watchers.isEmpty = false
  path : ∃ looked s₁ s₂, (lookAll p r.watchers).run s = (looked, s₁) ∧
    (∀ l ∈ looked, l.2 = none) ∧ p.interruption.run s₁ = (none, s₂) ∧
      (collectAll p (looked.map Prod.fst)).run s₂ = (ws, s')
  unroused : ws.any Watcher.isRoused = false

/-- Time passes then until the first pause ends or something else is due. -/
theorem Blocks.turn_run {r : Run β} {ws : List (Watcher β)} (h : Blocks p r s ws s') :
    (r.turn p).run s =
      (.next { r with watchers := ws }, ((p.sleep (earliestResume ws)).run s').2) := by
  obtain ⟨looked, s₁, s₂, hl, hn, hi, hc⟩ := h.path
  have hnone : (looked.any fun l => l.2.isSome) = false := by
    rw [List.any_eq_false]
    intro l hlm
    simp [hn l hlm]
  rw [Run.turn_run r s h.running h.watched hl, hnone, if_neg Bool.false_ne_true]
  simp only [Run.wait, run_bind, hi, hc, h.unroused, Bool.not_false, if_true, run_pure]

/-- Whoever does not pause while the loop blocks has nothing to act on. -/
theorem Blocks.resting (hp : Laws p v) {r : Run β} {ws : List (Watcher β)}
    (h : Blocks p r s ws s') (hi : Inv v ds s r.watchers) :
    ∀ w ∈ ws, Resting v s' w ∧ (w.resumeAt = none → w.flagged = false) := by
  obtain ⟨looked, s₁, s₂, hl, hn, hint, hc⟩ := h.path
  obtain ⟨hall, hplaces⟩ := lookAll_poised hp hi.distinct hi.sound hl
  have hq (d : Nat) (r : Readiness) : v.Quiet d r s₁ s₂ := by
    have hq := hp.interruption_quiet d r s₁
    rwa [hint] at hq
  have hrest : ∀ w ∈ looked.map Prod.fst, Resting v s₂ w := by
    intro w hw
    obtain ⟨l, hlm, rfl⟩ := List.mem_map.mp hw
    have hr := (hall l hlm).resting (hn l hlm)
    exact ⟨hr.toSound.quiet (hq _ _), hr.unarmed⟩
  have hd : ((looked.map Prod.fst).map (·.descriptor)).Nodup := by
    rw [List.map_map]
    exact (hplaces ▸ hi.distinct :)
  obtain ⟨hws, -⟩ := collectAll_resting hp hd hrest hc
  intro w hw
  refine ⟨hws w hw, fun hr => ?_⟩
  have hu := List.any_eq_false.mp h.unroused w hw
  have hquiet : w.flagged = false ∧ w.broken = none := by
    simpa [Watcher.isRoused, hr] using hu
  exact hquiet.1

/-- Nobody is called on the way to blocking. -/
theorem Blocks.total_eq (hp : Laws p v) {r : Run β} {ws : List (Watcher β)}
    (h : Blocks p r s ws s') (ds : List Nat) : v.total ds s' = v.total ds s := by
  obtain ⟨looked, s₁, s₂, hl, -, hi, hc⟩ := h.path
  have hlook := lookAll_keeps_total hp ds r.watchers s
  have hint := View.Quietly.keeps_total hp.interruption_quiet ds s₁
  have hcollect := collectAll_keeps_total hp ds (looked.map Prod.fst) s₂
  rw [hl] at hlook
  rw [hi] at hint
  rw [hc] at hcollect
  exact (hcollect.trans hint).trans hlook

/-! ## What follows -/

/-- No wakeup is lost. -/
structure Vigilant (p : Platform σ β) (v : View σ β) (ds : List Nat) (ws : List (Watcher β)) (s : σ)
    (n : Nat) : Prop where
  alert : ∀ w ∈ ws, IsAlert v s w
  exclusive : ∀ w ∈ ws, IsExclusive w
  /-- When everybody was looked at and some have had their turns, those who stay and the others that
  are not about to be called have lost nothing either. -/
  within : ∀ looked s₁, (lookAll p ws).run s = (looked, s₁) → ∀ done due, looked = done ++ due →
    ∀ stats stats' served s₂, (serveAll p stats done).run s₁ = ((served, stats'), s₂) →
      (∀ w, (w, none) ∈ served ∨ (w, none) ∈ due → IsAlert v s₂ w ∧ IsExclusive w) ∧
        ∀ l ∈ due, IsExclusive l.1
  /-- When the loop blocks, the descriptor of a watcher that does not pause is drained, unless
  there is an event that ends the blocking. -/
  drained : ∀ r ws' s', r.watchers = ws → Blocks p r s ws' s' → ∀ w ∈ ws', w.resumeAt = none →
    ¬ v.pending s' w.descriptor w.readiness → ¬ v.level s' w.descriptor w.readiness ∧
      (v.isReader w.descriptor → v.handled s' w.descriptor = v.arrived s' w.descriptor)
  /-- If all descriptors have readers and are still watched then and without a pause and
  an event, the runs have counted as many as have arrived. -/
  counted : ∀ r ws' s', r.watchers = ws → Blocks p r s ws' s' → v.AllRead ds →
    (∀ d ∈ ds, ∃ w ∈ ws', w.descriptor = d ∧ w.resumeAt = none ∧
      ¬ v.pending s' w.descriptor w.readiness) → n = sumOver (v.arrived s') ds

theorem Inv.within (hp : Laws p v) {ws : List (Watcher β)} (hi : Inv v ds s ws)
    {done due : List (Looked β)} {s₁ s₂ : σ} (hl : (lookAll p ws).run s = (done ++ due, s₁))
    {stats stats' : Stats} {served : List (Served β)}
    (hs : (serveAll p stats done).run s₁ = ((served, stats'), s₂))
    (hw : (w, none) ∈ served ∨ (w, none) ∈ due) : Sound v s₂ w := by
  obtain ⟨hall, hplaces⟩ := lookAll_poised hp hi.distinct hi.sound hl
  have hd := hi.distinct
  rw [← hplaces, List.map_append, List.nodup_append] at hd
  obtain ⟨hdone, -, hapart⟩ := hd
  obtain ⟨hserved, -, hq⟩ := serveAll_settled hp hdone
    (fun l hl => hall l (List.mem_append_left due hl)) hs
  rcases hw with hw | hw
  · exact hserved _ hw rfl
  · refine (hall _ (List.mem_append_right done hw)).1.quiet (hq _ _ fun hmem => ?_)
    exact hapart _ hmem _ (List.mem_map_of_mem hw) rfl

theorem Inv.drained (hp : Laws p v) {r : Run β} {ws : List (Watcher β)}
    (hi : Inv v ds s r.watchers) (hb : Blocks p r s ws s') (hw : w ∈ ws)
    (hpause : w.resumeAt = none) (hnone : ¬ v.pending s' w.descriptor w.readiness) :
    ¬ v.level s' w.descriptor w.readiness ∧
      (v.isReader w.descriptor → v.handled s' w.descriptor = v.arrived s' w.descriptor) := by
  obtain ⟨hr, hf⟩ := hb.resting hp hi w hw
  have hlevel : ¬ v.level s' w.descriptor w.readiness := by
    intro hl
    rcases hr.alert hl with ha | hres | hflag | hpending
    · rw [hr.unarmed hpause] at ha
      cases ha
    · rw [hpause] at hres
      cases hres
    · rw [hf hpause] at hflag
      cases hflag
    · exact hnone hpending
  refine ⟨hlevel, fun hreader => ?_⟩
  have ht := hr.tally hreader
  have hz := mt (hp.level_of_waiting _ _ _ s' hr.serves hreader) hlevel
  omega

/-- However arrivals, turns and runs follow each other, no wakeup is lost. -/
theorem wakeup_not_lost (hp : Laws p v) (hn : ds.Nodup) {ws : List (Watcher β)} {n : Nat}
    (h : Reachable p v ds ws s n) : Vigilant p v ds ws s n := by
  have hi := h.inv hp
  refine ⟨fun w hw => (hi.sound w hw).alert, fun w hw => (hi.sound w hw).exclusive, ?_, ?_, ?_⟩
  · rintro looked s₁ hl done due rfl stats stats' served s₂ hs
    refine ⟨fun w hw => ?_, fun l hdue => ?_⟩
    · have hsound := hi.within hp hl hs hw
      exact ⟨hsound.alert, hsound.exclusive⟩
    · obtain ⟨hall, -⟩ := lookAll_poised hp hi.distinct hi.sound hl
      exact (hall l (List.mem_append_right done hdue)).exclusive
  · rintro r ws' s' rfl hb w hw hpause hnone
    exact hi.drained hp hb hw hpause hnone
  · rintro r ws' s' rfl hb hread hall
    rw [← h.total_eq hp hread hn, ← hb.total_eq hp ds]
    refine sumOver_congr fun d hd => ?_
    obtain ⟨w, hw, rfl, hpause, hnone⟩ := hall d hd
    exact (hi.drained hp hb hw hpause hnone).2 (hread _ hd)

/-- One turn collects the event of two datagrams, and two more read them. -/
theorem wakeup_not_lost_solo : ∃ s, Reachable rehearsal (stageView fun _ => True) [0] [solo] s 2 ∧
    Vigilant rehearsal (stageView fun _ => True) [0] [solo] s 2 := by
  have hregistered : Registered (stageView fun _ => True) soloStage solo :=
    ⟨⟨⟨rfl, rfl, rfl, nofun, nofun⟩, fun _ => rfl⟩, rfl, rfl, fun _ => rfl, fun _ => rfl⟩
  have h₀ : Reachable rehearsal (stageView fun _ => True) [0] [solo] soloStage 0 :=
    (Reachable.start soloStage).register (List.mem_singleton.mpr rfl) hregistered rfl
  have h₁ : Reachable rehearsal (stageView fun _ => True) [0] [{ solo with flagged := true }]
      { soloStage with events := #[false] } 0 :=
    h₀.turn (r := { watchers := [solo] }) rfl
  have h₂ : Reachable rehearsal (stageView fun _ => True) [0] [{ solo with armed := true }]
      { soloStage with
        host := (Host.enter .poll (.ofScript {})).2
        queues := #[1]
        events := #[false]
        calls := [⟨0, actorName 0, 1, some .handled⟩] } 1 :=
    h₁.turn (r := { watchers := [{ solo with flagged := true }] }) rfl
  have h₃ : Reachable rehearsal (stageView fun _ => True) [0] [solo]
      { soloStage with
        host := (Host.enter .poll (Host.enter .poll (.ofScript {})).2).2
        queues := #[0]
        events := #[false]
        calls := [⟨0, actorName 0, 1, some .handled⟩, ⟨0, actorName 0, 1, some .handled⟩] } 2 :=
    h₂.turn (r := { watchers := [{ solo with armed := true }] }) rfl
  exact ⟨_, h₃, wakeup_not_lost (rehearsal_laws _) (by decide) h₃⟩

/-! ## Those whose calls are still to come -/

/-- Between any two calls of a turn everybody is alert: those who have had their turns and stay, and
all others, whatever the look at them has found. -/
def AlertBetweenCalls (p : Platform σ β) (v : View σ β) (ws : List (Watcher β)) (s : σ) : Prop :=
  ∀ done due s₁, (lookAll p ws).run s = (done ++ due, s₁) →
    ∀ stats stats' served s₂, (serveAll p stats done).run s₁ = ((served, stats'), s₂) →
      (∀ w, (w, none) ∈ served → IsAlert v s₂ w) ∧ ∀ l ∈ due, IsAlert v s₂ l.1

/-- A reader of one of two descriptors. -/
def reader (place : Nat) : Watcher Actor where
  label := actorName place
  descriptor := place
  readiness := .readable
  worker := { place, label := actorName place, script := [], afterError := .handled }

/-- A stage with two descriptors, at each of which a datagram waits. -/
def readersStage : Stage where
  host := .ofScript {}
  limit := 10
  queues := #[1, 1]
  watched := #[.readable, .readable]
  events := #[true, true]

/-- One turn collects the events of two readers. In the next one, when the first of them has been
called, a datagram waits for the second, who is not armed, does not pause, and has no event. -/
theorem wakeup_collected_pair : Laws rehearsal (stageView fun _ => True) ∧ ∃ ws s n,
    Reachable rehearsal (stageView fun _ => True) [0, 1] ws s n ∧
      ¬ AlertBetweenCalls rehearsal (stageView fun _ => True) ws s := by
  have hregistered (place : Nat) (hp : place = 0 ∨ place = 1) :
      Registered (stageView fun _ => True) readersStage (reader place) := by
    refine ⟨⟨⟨rfl, rfl, rfl, nofun, nofun⟩, fun _ => rfl⟩, rfl, rfl, fun _ => ?_, fun _ => rfl⟩
    rcases hp with rfl | rfl <;> rfl
  have h₀ : Reachable rehearsal (stageView fun _ => True) [0, 1] [reader 0] readersStage 0 :=
    (Reachable.start readersStage).register (by decide) (hregistered 0 (.inl rfl)) rfl
  have h₁ : Reachable rehearsal (stageView fun _ => True) [0, 1] [reader 0, reader 1]
      readersStage 0 :=
    h₀.register (by decide) (hregistered 1 (.inr rfl)) rfl
  have h₂ : Reachable rehearsal (stageView fun _ => True) [0, 1]
      [{ reader 0 with flagged := true }, { reader 1 with flagged := true }]
      { readersStage with events := #[false, false] } 0 :=
    h₁.turn (r := { watchers := [reader 0, reader 1] }) rfl
  refine ⟨rehearsal_laws _, _, _, _, h₂, fun halert => ?_⟩
  obtain ⟨-, hdue⟩ :=
    halert [(reader 0, some (.ok ()))] [(reader 1, some (.ok ()))] _ rfl {} _ _ _ rfl
  have hready : (stageView fun _ => True).level
      ((serveAll rehearsal {} [(reader 0, some (.ok ()))]).run
        { readersStage with events := #[false, false] }).2 1 .readable :=
    ⟨⟨rfl, by decide⟩, rfl⟩
  rcases hdue _ (List.mem_singleton.mpr rfl) hready with ha | hr | hf | hp
  · cases ha
  · cases hr
  · cases hf
  · exact Bool.false_ne_true hp

end PacketLink.Reactor
