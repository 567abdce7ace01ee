import PacketLink.Proofs.Reactor.Surroundings

/-!
# One turn of a watcher

What a look, a turn and the collection of events do to a watcher, and what they leave alone.

* `Sound`: what holds of a watcher between two turns of the loop. If its descriptor is ready, it is
  armed, pauses, or has an event (`IsAlert`), and it is never armed while it pauses.
* `Poised`: what holds of a watcher that was looked at and has not been served. Its event may have
  been used up then, as it is about to be called.
* `Resting`: what holds of a watcher when nobody is ready.
* `Sweep`: one turn of each watcher in order. What one of them does at its descriptor, the others
  see as arrivals at most, so each of them keeps what holds of it (`Sweep.all`).
-/

namespace PacketLink.Reactor

variable {σ β : Type} {p : Platform σ β} {v : View σ β} {s s' : σ} {w : Watcher β}

/-- What a watcher and its worker are for. -/
structure Fit (v : View σ β) (s : σ) (w : Watcher β) : Prop where
  serves : v.serves w.worker w.descriptor w.readiness
  /-- What a reader has handled and what waits is all that has arrived. -/
  tally : v.isReader w.descriptor →
    v.handled s w.descriptor + v.waiting s w.descriptor = v.arrived s w.descriptor

/-- A watcher whose descriptor is ready is armed, pauses, or has an event that nobody has acted
on, collected or not. -/
def IsAlert (v : View σ β) (s : σ) (w : Watcher β) : Prop :=
  v.level s w.descriptor w.readiness → w.armed = true ∨ w.resumeAt.isSome = true ∨
    w.flagged = true ∨ v.pending s w.descriptor w.readiness

/-- A watcher is not armed while it pauses. -/
def IsExclusive (w : Watcher β) : Prop := ¬ (w.armed = true ∧ w.resumeAt.isSome = true)

/-- What holds of a watcher between two turns. -/
structure Sound (v : View σ β) (s : σ) (w : Watcher β) : Prop extends Fit v s w where
  exclusive : IsExclusive w
  alert : IsAlert v s w

/-- What holds of a watcher after a look at it. One that is not ready is sound, and pauses or has
nothing to act on. -/
def Poised (v : View σ β) (s : σ) : Looked β → Prop
  | (w, none) => Sound v s w ∧ (w.resumeAt = none → w.armed = false ∧ w.flagged = false)
  | (w, some (.ok ())) => Fit v s w ∧ w.resumeAt = none
  | (w, some (.error _)) => w.resumeAt = none

theorem Poised.exclusive {l : Looked β} (h : Poised v s l) : IsExclusive l.1 := by
  have hoff {w : Watcher β} (hr : w.resumeAt = none) : IsExclusive w := by
    rintro ⟨-, hx⟩
    rw [hr] at hx
    cases hx
  match l, h with
  | (w, none), h => exact h.1.exclusive
  | (w, some (.ok ())), h => exact hoff h.2
  | (w, some (.error e)), h => exact hoff h

theorem Poised.serves {l : Looked β} (h : Poised v s l) (hl : l.2 = some (.ok ())) :
    v.serves l.1.worker l.1.descriptor l.1.readiness := by
  obtain ⟨w, outcome⟩ := l
  cases hl
  exact h.1.serves

/-- What holds of a watcher after its turn: it is sound if it stays. -/
def Settled (v : View σ β) (s : σ) (x : Served β) : Prop := x.2 = none → Sound v s x.1

/-! ## While others have their turns -/

theorem Fit.quiet (h : Fit v s w) (hq : v.Unread w.descriptor s s') : Fit v s' w := by
  refine ⟨h.serves, fun hr => ?_⟩
  have ht := h.tally hr
  obtain ⟨hw, hh⟩ := hq
  omega

theorem IsAlert.quiet (h : IsAlert v s w) (hq : v.Quiet w.descriptor w.readiness s s') :
    IsAlert v s' w := by
  intro hl
  rcases hq.level hl with hl | hp
  · rcases h hl with ha | hr | hf | hp
    · exact .inl ha
    · exact .inr (.inl hr)
    · exact .inr (.inr (.inl hf))
    · exact .inr (.inr (.inr (hq.pending hp)))
  · exact .inr (.inr (.inr hp))

theorem Sound.quiet (h : Sound v s w) (hq : v.Quiet w.descriptor w.readiness s s') :
    Sound v s' w :=
  ⟨h.toFit.quiet hq.unread, h.exclusive, h.alert.quiet hq⟩

theorem Poised.quiet {l : Looked β} (h : Poised v s l)
    (hq : v.Quiet l.1.descriptor l.1.readiness s s') : Poised v s' l := by
  match l, h with
  | (w, none), h => exact ⟨h.1.quiet hq, h.2⟩
  | (w, some (.ok ())), h => exact ⟨h.1.quiet hq.unread, h.2⟩
  | (w, some (.error e)), h => exact h

theorem Settled.quiet {x : Served β} (h : Settled v s x)
    (hq : v.Quiet x.1.descriptor x.1.readiness s s') : Settled v s' x :=
  fun hn => (h hn).quiet hq

/-! ## One turn of each in order -/

/-- One turn of each element in order, with what each of them leads to. -/
inductive Sweep {α γ : Type} (step : σ → α → γ → σ → Prop) : σ → List α → List γ → σ → Prop where
  | nil {s : σ} : Sweep step s [] [] s
  | cons {s s₁ s₂ : σ} {a : α} {c : γ} {as : List α} {cs : List γ} (hs : step s a c s₁)
      (hr : Sweep step s₁ as cs s₂) : Sweep step s (a :: as) (c :: cs) s₂

/-- Elements at descriptors of their own do not disturb each other. -/
theorem Sweep.all {α γ : Type} (v : View σ β) (Pre : σ → α → Prop) (Post : σ → γ → Prop)
    (place : α → Nat) (place' : γ → Nat) {step : σ → α → γ → σ → Prop}
    {as : List α} {cs : List γ} (h : Sweep step s as cs s')
    (hpre : ∀ s s' a, (∀ r, v.Quiet (place a) r s s') → Pre s a → Pre s' a)
    (hpost : ∀ s s' c, (∀ r, v.Quiet (place' c) r s s') → Post s c → Post s' c)
    (hstep : ∀ s a c s', Pre s a → step s a c s' → Post s' c ∧ place' c = place a ∧
      ∀ d r, d ≠ place a → v.Quiet d r s s')
    (hd : (as.map place).Nodup)
    (ha : ∀ a ∈ as, Pre s a) : (∀ c ∈ cs, Post s' c) ∧ cs.map place' = as.map place ∧
      ∀ d r, d ∉ as.map place → v.Quiet d r s s' := by
  induction h with
  | nil => exact ⟨nofun, rfl, fun d r _ => .refl _⟩
  | @cons s s₁ s₂ a c as cs hs hr ih =>
    rw [List.map_cons, List.nodup_cons] at hd
    obtain ⟨hc, hplace, hq⟩ := hstep s a c s₁ (ha a (List.mem_cons_self ..)) hs
    have hrest (b : α) (hb : b ∈ as) : Pre s₁ b := by
      refine hpre s s₁ b (fun r => hq _ r fun he => hd.1 ?_) (ha b (List.mem_cons_of_mem a hb))
      exact he ▸ List.mem_map_of_mem hb
    obtain ⟨hcs, hplaces, hq'⟩ := ih hd.2 hrest
    refine ⟨?_, by rw [List.map_cons, List.map_cons, hplace, hplaces], fun d r hn => ?_⟩
    · intro x hx
      rcases List.mem_cons.mp hx with rfl | hx
      · exact hpost s₁ s₂ x (fun r => hq' _ r (hplace ▸ hd.1)) hc
      · exact hcs x hx
    · rw [List.map_cons, List.mem_cons, not_or] at hn
      exact (hq d r hn.1).trans (hq' d r hn.2)

/-! ## Looking -/

theorem lookAwake_poised (h : Sound v s w) (hr : w.resumeAt = none) :
    Poised v s (lookAwake w) ∧ (lookAwake w).1.descriptor = w.descriptor := by
  unfold lookAwake
  by_cases ha : w.armed = true
  · rw [if_pos ha]
    exact ⟨⟨h.toFit, hr⟩, rfl⟩
  · rw [if_neg ha]
    cases w.broken with
    | some e => exact ⟨hr, rfl⟩
    | none =>
      dsimp only
      by_cases hf : w.flagged = true
      · rw [if_pos hf]
        exact ⟨⟨⟨h.serves, h.tally⟩, hr⟩, rfl⟩
      · rw [if_neg hf]
        exact ⟨⟨h, fun _ => ⟨Bool.eq_false_iff.mpr ha, Bool.eq_false_iff.mpr hf⟩⟩, rfl⟩

theorem look_quiet (hp : Laws p v) (w : Watcher β) (d : Nat) (r : Readiness) :
    v.Quietly d r (look p w) := by
  intro s
  unfold look
  cases w.resumeAt with
  | none => exact .refl s
  | some t =>
    simp only [run_bind, run_get]
    by_cases ht : p.now s < t
    · simp only [ht, if_true]
      exact .refl s
    · simp only [ht, if_false, run_bind]
      have hq := hp.probe_quiet w.descriptor w.readiness d r s
      generalize (p.probe w.descriptor w.readiness).run s = probed at hq ⊢
      obtain ⟨outcome, s'⟩ := probed
      cases outcome <;> exact hq

theorem look_poised (hp : Laws p v) (h : Sound v s w) {l : Looked β}
    (hl : (look p w).run s = (l, s')) : Poised v s' l ∧ l.1.descriptor = w.descriptor := by
  unfold look at hl
  cases hr : w.resumeAt with
  | none =>
    simp only [hr, run_pure] at hl
    obtain ⟨rfl, rfl⟩ := Prod.mk.inj hl
    exact lookAwake_poised h hr
  | some t =>
    simp only [hr, run_bind, run_get] at hl
    by_cases ht : p.now s < t
    · simp only [ht, if_true, run_pure] at hl
      obtain ⟨rfl, rfl⟩ := Prod.mk.inj hl
      exact ⟨⟨h, fun hn => by rw [hr] at hn; cases hn⟩, rfl⟩
    · simp only [ht, if_false, run_bind] at hl
      have hq := hp.probe_quiet w.descriptor w.readiness w.descriptor w.readiness s
      have he := hp.probe_empty w.descriptor w.readiness s
      generalize (p.probe w.descriptor w.readiness).run s = probed at hl hq he
      obtain ⟨outcome, s₁⟩ := probed
      have hfit := h.toFit.quiet hq.unread
      cases outcome with
      | error e =>
        obtain ⟨rfl, rfl⟩ := Prod.mk.inj hl
        exact ⟨rfl, rfl⟩
      | ok level =>
        obtain ⟨rfl, rfl⟩ := Prod.mk.inj hl
        -- The pause is over, and the probe tells whether there is something to do.
        refine lookAwake_poised ⟨⟨hfit.serves, hfit.tally⟩, fun hx => ?_, fun hlevel => ?_⟩ rfl
        · cases hx.2
        · cases level with
          | true => exact .inl rfl
          | false => exact .inr (.inr (.inr ((he _ rfl).pending hlevel)))

theorem lookAll_sweep (p : Platform σ β) (ws : List (Watcher β)) (s : σ) :
    Sweep (fun s w l s' => (look p w).run s = (l, s')) s ws ((lookAll p ws).run s).1
      ((lookAll p ws).run s).2 := by
  induction ws generalizing s with
  | nil => exact .nil
  | cons w ws ih => exact .cons rfl (ih _)

theorem lookAll_poised (hp : Laws p v) {ws : List (Watcher β)}
    (hd : (ws.map (·.descriptor)).Nodup) (h : ∀ w ∈ ws, Sound v s w) {looked : List (Looked β)}
    (hl : (lookAll p ws).run s = (looked, s')) :
    (∀ l ∈ looked, Poised v s' l) ∧ looked.map (·.1.descriptor) = ws.map (·.descriptor) := by
  have hstep (s : σ) (w : Watcher β) (l : Looked β) (s' : σ) (hs : Sound v s w)
      (hrun : (look p w).run s = (l, s')) : Poised v s' l ∧ l.1.descriptor = w.descriptor ∧
        ∀ d r, d ≠ w.descriptor → v.Quiet d r s s' := by
    obtain ⟨hpoised, hplace⟩ := look_poised hp hs hrun
    refine ⟨hpoised, hplace, fun d r _ => ?_⟩
    have hq := look_quiet hp w d r s
    rwa [hrun] at hq
  have hsweep := lookAll_sweep p ws s
  rw [hl] at hsweep
  obtain ⟨hall, hplaces, -⟩ := hsweep.all v (Sound v) (Poised v) (·.descriptor)
    (·.1.descriptor) (fun _ _ _ hq hs => hs.quiet (hq _)) (fun _ _ _ hq hs => hs.quiet (hq _))
    hstep hd h
  exact ⟨hall, hplaces⟩

/-! ## Serving -/

theorem schedule_quiet (hp : Laws p v) (w : Watcher β) (dispatch : Dispatch) (d : Nat)
    (r : Readiness) : v.Quietly d r (schedule p w dispatch) := by
  intro s
  unfold schedule
  cases dispatch with
  | idle => exact .refl s
  | pause milliseconds => exact .refl s
  | handled =>
    simp only [run_bind]
    have hq := hp.probe_quiet w.descriptor w.readiness d r s
    generalize (p.probe w.descriptor w.readiness).run s = probed at hq ⊢
    obtain ⟨outcome, s₁⟩ := probed
    cases outcome with
    | ok level => exact hq
    | error e => exact hq.trans (hp.report_quiet _ d r s₁)

/-- An answer is put into effect for a watcher that does not pause. One that is to be idle has found
its descriptor empty. -/
theorem schedule_sound (hp : Laws p v) (h : Fit v s w) (hr : w.resumeAt = none)
    {dispatch : Dispatch} (he : dispatch = .idle → v.FoundEmpty w.descriptor w.readiness s)
    {w' : Watcher β} (hrun : (schedule p w dispatch).run s = (w', s')) :
    Sound v s' w' ∧ w'.descriptor = w.descriptor := by
  have hfit : Fit v s' w := by
    have hq := schedule_quiet hp w dispatch w.descriptor w.readiness s
    rw [hrun] at hq
    exact h.quiet hq.unread
  unfold schedule at hrun
  cases dispatch with
  | idle =>
    obtain ⟨rfl, rfl⟩ := Prod.mk.inj hrun
    refine ⟨⟨⟨hfit.serves, hfit.tally⟩, fun hx => ?_, fun hl => ?_⟩, rfl⟩
    · cases hx.1
    · exact .inr (.inr (.inr ((he rfl).pending hl)))
  | pause milliseconds =>
    obtain ⟨rfl, rfl⟩ := Prod.mk.inj hrun
    refine ⟨⟨⟨hfit.serves, hfit.tally⟩, fun hx => ?_, fun _ => .inr (.inl rfl)⟩, rfl⟩
    cases hx.1
  | handled =>
    have hoff (armed : Bool) : IsExclusive { w with armed } := by
      rintro ⟨-, hx⟩
      rw [show ({ w with armed } : Watcher β).resumeAt = none from hr] at hx
      cases hx
    simp only [run_bind] at hrun
    have he := hp.probe_empty w.descriptor w.readiness s
    generalize (p.probe w.descriptor w.readiness).run s = probed at hrun he
    obtain ⟨outcome, s₁⟩ := probed
    cases outcome with
    | ok level =>
      obtain ⟨rfl, rfl⟩ := Prod.mk.inj hrun
      refine ⟨⟨⟨hfit.serves, hfit.tally⟩, hoff level, fun hl => ?_⟩, rfl⟩
      cases level with
      | true => exact .inl rfl
      | false => exact .inr (.inr (.inr ((he _ rfl).pending hl)))
    | error e =>
      obtain ⟨rfl, rfl⟩ := Prod.mk.inj hrun
      exact ⟨⟨⟨hfit.serves, hfit.tally⟩, hoff true, fun _ => .inl rfl⟩, rfl⟩

/-- A worker leaves its watcher fit for the next turn. -/
theorem onReady_fit (hp : Laws p v) (h : Fit v s w) {answer : Except LinkError Dispatch}
    {worker : β} (hrun : (p.onReady w.worker).run s = ((answer, worker), s')) :
    Fit v s' { w with worker } := by
  refine ⟨?_, fun hr => ?_⟩
  · have hs := hp.onReady_serves w.worker w.descriptor w.readiness s h.serves
    rwa [hrun] at hs
  · obtain ⟨ha, hh⟩ := hp.onReady_reader _ _ _ _ _ _ _ h.serves hrun hr
    have ht := h.tally hr
    show v.handled s' w.descriptor + v.waiting s' w.descriptor = v.arrived s' w.descriptor
    omega

theorem serve_quiet (hp : Laws p v) {l : Looked β}
    (hs : l.2 = some (.ok ()) → v.serves l.1.worker l.1.descriptor l.1.readiness) (stats : Stats)
    {d : Nat} (hd : d ≠ l.1.descriptor) (r : Readiness) : v.Quietly d r (serve p stats l) := by
  match l, hs with
  | (w, none), _ => exact View.Quietly.pure _
  | (w, some (.error e)), _ => exact (hp.report_quiet _ d r).bind fun _ => View.Quietly.pure _
  | (w, some (.ok ())), hs =>
    refine (hp.onReady_quiet _ _ _ d r (hs rfl) hd).bind fun turn => ?_
    obtain ⟨answer, worker⟩ := turn
    cases answer with
    | ok dispatch => exact (schedule_quiet hp _ dispatch d r).bind fun _ => View.Quietly.pure _
    | error e =>
      simp only
      cases e.isResource with
      | true => exact (hp.report_quiet _ d r).bind fun _ => View.Quietly.pure _
      | false =>
        exact (hp.report_quiet _ d r).bind fun _ =>
          (schedule_quiet hp _ _ d r).bind fun _ => View.Quietly.pure _

theorem serve_settled (hp : Laws p v) {stats stats' : Stats} {l : Looked β} {x : Served β}
    (h : Poised v s l) (hrun : (serve p stats l).run s = ((x, stats'), s')) :
    Settled v s' x ∧ x.1.descriptor = l.1.descriptor := by
  match l, h with
  | (w, none), h =>
    obtain ⟨hx, rfl⟩ := Prod.mk.inj hrun
    obtain ⟨rfl, -⟩ := Prod.mk.inj hx
    exact ⟨fun _ => h.1, rfl⟩
  | (w, some (.error e)), h =>
    rw [serve, run_bind] at hrun
    obtain ⟨hx, rfl⟩ := Prod.mk.inj hrun
    obtain ⟨rfl, -⟩ := Prod.mk.inj hx
    exact ⟨nofun, rfl⟩
  | (w, some (.ok ())), ⟨hfit, hr⟩ =>
    obtain ⟨⟨⟨answer, worker⟩, s₁⟩, ht⟩ : ∃ t, (p.onReady w.worker).run s = t := ⟨_, rfl⟩
    have hfit₁ : Fit v s₁ { w with worker } := onReady_fit hp hfit ht
    simp only [serve, run_bind, ht] at hrun
    cases answer with
    | ok dispatch =>
      simp only [run_bind, run_pure] at hrun
      obtain ⟨hx, rfl⟩ := Prod.mk.inj hrun
      obtain ⟨rfl, -⟩ := Prod.mk.inj hx
      have hidle (he : dispatch = .idle) : v.FoundEmpty w.descriptor w.readiness s₁ := by
        subst he
        exact hp.onReady_idle _ _ _ _ _ _ hfit.serves ht
      obtain ⟨hsound, hplace⟩ := schedule_sound hp hfit₁ hr hidle rfl
      exact ⟨fun _ => hsound, hplace⟩
    | error e =>
      by_cases he : e.isResource = true
      · simp only [he, if_true, run_bind, run_pure] at hrun
        obtain ⟨hx, rfl⟩ := Prod.mk.inj hrun
        obtain ⟨rfl, -⟩ := Prod.mk.inj hx
        exact ⟨nofun, rfl⟩
      · have hoff := Bool.eq_false_iff.mpr he
        simp only [hoff, Bool.false_eq_true, if_false, run_bind, run_pure] at hrun
        have hreport := hp.report_quiet (Log.warn "frame failed"
          [({ w with worker } : Watcher β).labelField, ("error", e.message)])
        obtain ⟨hx, rfl⟩ := Prod.mk.inj hrun
        obtain ⟨rfl, -⟩ := Prod.mk.inj hx
        have hfit₂ := hfit₁.quiet (hreport w.descriptor w.readiness s₁).unread
        have hidle (he : p.afterError worker = .idle) := (hp.afterError_idle _ _ _ _ _ _ _
          hfit.serves ht hoff he).quiet (hreport w.descriptor w.readiness s₁)
        obtain ⟨hsound, hplace⟩ := schedule_sound hp hfit₂ hr hidle rfl
        exact ⟨fun _ => hsound, hplace⟩

theorem serveAll_sweep (p : Platform σ β) (stats : Stats) (looked : List (Looked β)) (s : σ) :
    Sweep (fun s l x s' => ∃ stats stats', (serve p stats l).run s = ((x, stats'), s')) s looked
      ((serveAll p stats looked).run s).1.1 ((serveAll p stats looked).run s).2 := by
  induction looked generalizing stats s with
  | nil => exact .nil
  | cons l looked ih => exact .cons ⟨stats, _, rfl⟩ (ih _ _)

/-- Some watchers were looked at and some of them had their turns: those that stay are sound, and
nothing but arrivals has happened at the descriptors of the others. -/
theorem serveAll_settled (hp : Laws p v) {stats stats' : Stats} {looked : List (Looked β)}
    {served : List (Served β)} (hd : (looked.map (·.1.descriptor)).Nodup)
    (h : ∀ l ∈ looked, Poised v s l)
    (hrun : (serveAll p stats looked).run s = ((served, stats'), s')) :
    (∀ x ∈ served, Settled v s' x) ∧
      served.map (·.1.descriptor) = looked.map (·.1.descriptor) ∧
        ∀ d r, d ∉ looked.map (·.1.descriptor) → v.Quiet d r s s' := by
  have hsweep := serveAll_sweep p stats looked s
  rw [hrun] at hsweep
  refine hsweep.all v (Poised v) (Settled v) (·.1.descriptor) (·.1.descriptor)
    (fun _ _ _ hq hs => hs.quiet (hq _)) (fun _ _ _ hq hs => hs.quiet (hq _)) ?_ hd h
  rintro s l x s' hs ⟨stats, stats', hrun⟩
  obtain ⟨hx, hplace⟩ := serve_settled hp hs hrun
  refine ⟨hx, hplace, fun d r hd => ?_⟩
  have hq := serve_quiet hp hs.serves stats hd r s
  rwa [hrun] at hq

/-! ## Waiting -/

/-- What holds of a watcher when nobody is ready. -/
structure Resting (v : View σ β) (s : σ) (w : Watcher β) : Prop extends Sound v s w where
  unarmed : w.resumeAt = none → w.armed = false

theorem collected_descriptor (w : Watcher β) (outcome : Except Errno Bool) :
    (w.collected outcome).descriptor = w.descriptor := by
  cases outcome <;> rfl

theorem collect_resting (hp : Laws p v) (h : Resting v s w) {outcome : Except Errno Bool}
    (hrun : (p.collect w.descriptor w.readiness).run s = (outcome, s')) :
    Resting v s' (w.collected outcome) := by
  have hfit : Fit v s' w := by
    have hu := hp.collect_unread w.descriptor w.readiness s
    rw [hrun] at hu
    exact h.toFit.quiet hu
  have halert : IsAlert v s' (w.collected outcome) := ?_
  · cases outcome <;> exact ⟨⟨⟨hfit.serves, hfit.tally⟩, h.exclusive, halert⟩, h.unarmed⟩
  intro hl
  match outcome, hrun with
  | .error e, hrun => exact h.alert.quiet (hp.collect_failed _ _ s e s' hrun) hl
  | .ok true, _ => exact .inr (.inr (.inl (Bool.or_true _)))
  | .ok false, hrun =>
    obtain ⟨s₁, hq, hnone, hlevel⟩ := hp.collect_none _ _ s s' hrun
    simp only [Watcher.collected, Bool.or_false] at hl ⊢
    rcases hlevel hl with hl₁ | hpending
    · -- It was ready when its event was looked for, so it had none and needs none.
      rcases h.alert.quiet hq hl₁ with ha | hr | hf | hpending
      · exact .inl ha
      · exact .inr (.inl hr)
      · exact .inr (.inr (.inl hf))
      · exact absurd ⟨hl₁, hpending⟩ hnone
    · exact .inr (.inr (.inr hpending))

theorem collectAll_sweep (p : Platform σ β) (ws : List (Watcher β)) (s : σ) :
    Sweep (fun s w w' s' => ∃ outcome, (p.collect w.descriptor w.readiness).run s = (outcome, s') ∧
      w' = w.collected outcome) s ws ((collectAll p ws).run s).1 ((collectAll p ws).run s).2 := by
  induction ws generalizing s with
  | nil => exact .nil
  | cons w ws ih => exact .cons ⟨_, rfl, rfl⟩ (ih _)

theorem collectAll_resting (hp : Laws p v) {ws ws' : List (Watcher β)}
    (hd : (ws.map (·.descriptor)).Nodup) (h : ∀ w ∈ ws, Resting v s w)
    (hrun : (collectAll p ws).run s = (ws', s')) :
    (∀ w ∈ ws', Resting v s' w) ∧ ws'.map (·.descriptor) = ws.map (·.descriptor) := by
  have hsweep := collectAll_sweep p ws s
  rw [hrun] at hsweep
  have hquiet (s s' : σ) (w : Watcher β) (hq : ∀ r, v.Quiet w.descriptor r s s')
      (h : Resting v s w) : Resting v s' w := ⟨h.toSound.quiet (hq _), h.unarmed⟩
  obtain ⟨hall, hplaces, -⟩ := hsweep.all v (Resting v) (Resting v) (·.descriptor) (·.descriptor)
    hquiet hquiet (by
      rintro s w w' s' hs ⟨outcome, hrun, rfl⟩
      refine ⟨collect_resting hp hs hrun, collected_descriptor w outcome, fun d r hd => ?_⟩
      have hq := hp.collect_quiet w.descriptor w.readiness d r hd s
      rwa [hrun] at hq) hd h
  exact ⟨hall, hplaces⟩

end PacketLink.Reactor
