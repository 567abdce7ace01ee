import Mathlib.Data.List.Nodup
import PacketLink.Proofs.Reactor.Calls
import PacketLink.Proofs.Reactor.History
import PacketLink.Proofs.Reactor.Wakeup

/-!
# Pauses

A worker that pauses is not called before its pause is over, whatever others do meanwhile and
whether or not the run goes on.

* `Clocked p`: the clock is not turned back.
* `Pauses p T w s`: the watcher is not ready before `T`. `PausesAt` says it of whoever watches a
  descriptor, with what is known of the worker.
* `Departs p x w s`: what an encounter left of a watcher, at a later time.
* `Run.Serving.pause_begins` and `Run.turn_pauses`: a call that is answered with a pause begins it,
  and every turn keeps it.
-/

namespace PacketLink.Reactor

variable {σ β : Type} {p : Platform σ β} {W : β → Prop} {d T : Nat} {w : Watcher β}
  {ws ws' : List (Watcher β)} {s s' s₁ : σ} {r r' : Run β} {x : Encounter σ β}
  {xs : List (Encounter σ β)} {stats : Stats} {looked : List (Looked β)}

/-- What a watcher that stays does next. -/
def Fate.sequel? (p : Platform σ β) : Fate β → Option Dispatch
  | .waited | .failed _ => none
  | .answered (.ok dispatch) _ => some dispatch
  | .answered (.error e) left => if e.isResource then none else some (p.afterError left)

/-- The clock is not turned back: not by workers and calls, and not when the loop lets time pass. -/
structure Clocked (p : Platform σ β) : Prop where
  abides : ∀ T, Abides p fun s => T ≤ p.now s
  interruption : ∀ T, Stays (fun s => T ≤ p.now s) p.interruption
  collect : ∀ T d readiness, Stays (fun s => T ≤ p.now s) (p.collect d readiness)
  sleep : ∀ r s ws s', Blocks p r s ws s' →
    p.now s' ≤ p.now ((p.sleep (earliestResume ws)).run s').2

/-- No time is lost. -/
theorem now_le {α : Type} {act : StateM σ α} (h : ∀ T, Stays (fun s => T ≤ p.now s) act) {a : α}
    (hrun : act.run s = (a, s')) : p.now s ≤ p.now s' := by
  have hle := h (p.now s) s (Nat.le_refl _)
  rwa [hrun] at hle

/-! ## Encounters -/

/-- Everybody who is met was looked at. -/
theorem meetAll_looked (hx : x ∈ meetAll p stats looked s) :
    (x.watcher, x.fate.look) ∈ looked := by
  have hlooked := (serveAll_serves p stats looked (s, [])).looked
  exact hlooked ▸ List.mem_map.mpr ⟨x, hx, rfl⟩

/-- What holds when serving begins holds before every encounter. -/
theorem meetAll_before {P : σ → Prop} (hp : Abides p P) (hx : x ∈ meetAll p stats looked s)
    (hs : P s) : P x.before := by
  induction looked generalizing stats s with
  | nil => simp [meetAll] at hx
  | cons l looked ih =>
    rw [meetAll, List.mem_cons] at hx
    rcases hx with rfl | hx
    · obtain ⟨w, _ | cause | ⟨⟨⟩⟩⟩ := l <;> exact hs
    · exact ih hx (hp.serve stats l s hs)

/-! ## Watchers that pause -/

/-- The watcher is not ready before `T`. -/
def Pauses (p : Platform σ β) (T : Nat) (w : Watcher β) (s : σ) : Prop :=
  T ≤ p.now s ∨ ∃ t, w.resumeAt = some t ∧ T ≤ t

/-- Whoever watches `d` has a worker like this and is not ready before `T`. -/
def PausesAt (p : Platform σ β) (W : β → Prop) (d T : Nat) (ws : List (Watcher β)) (s : σ) : Prop :=
  ∀ w ∈ ws, w.descriptor = d → W w.worker ∧ Pauses p T w s

theorem Pauses.later (h : Pauses p T w s) (hs : p.now s ≤ p.now s') : Pauses p T w s' :=
  h.imp_left fun hle => Nat.le_trans hle hs

theorem PausesAt.later (h : PausesAt p W d T ws s) (hs : p.now s ≤ p.now s') :
    PausesAt p W d T ws s' :=
  fun w hw hd => (h w hw hd).imp_right fun hpause => hpause.later hs

/-- A look finds nobody ready whose pause is not over. -/
theorem look_pauses (hp : Clocked p) (h : Pauses p T w s) {l : Looked β}
    (hl : (look p w).run s = (l, s')) :
    Pauses p T l.1 s' ∧ (l.2.isSome = true → T ≤ p.now s') := by
  unfold look at hl
  cases hr : w.resumeAt with
  | none =>
    have hover : T ≤ p.now s := by simpa [Pauses, hr] using h
    simp only [hr, run_pure] at hl
    obtain ⟨rfl, rfl⟩ := Prod.mk.inj hl
    exact ⟨.inl hover, fun _ => hover⟩
  | some t =>
    simp only [hr, run_bind, run_get] at hl
    by_cases ht : p.now s < t
    · simp only [ht, if_true, run_pure] at hl
      obtain ⟨rfl, rfl⟩ := Prod.mk.inj hl
      exact ⟨h, by simp⟩
    · have hover : T ≤ p.now s := by
        rcases h with hle | ⟨t', hr', hle⟩
        · exact hle
        · cases hr.symm.trans hr'
          omega
      have hlater := (hp.abides T).probe w.descriptor w.readiness s hover
      simp only [ht, if_false, run_bind] at hl
      generalize (p.probe w.descriptor w.readiness).run s = probed at hl hlater
      obtain ⟨outcome, s₁⟩ := probed
      have hs : s₁ = s' := by cases outcome <;> exact (Prod.mk.inj hl).2
      rw [hs] at hlater
      exact ⟨.inl hlater, fun _ => hlater⟩

/-- What a look at the watcher of a descriptor finds. -/
theorem lookAll_pauses (hp : Clocked p) (h : PausesAt p W d T ws s)
    (hl : (lookAll p ws).run s = (looked, s')) : ∀ l ∈ looked, l.1.descriptor = d →
      W l.1.worker ∧ Pauses p T l.1 s' ∧ (l.2.isSome = true → T ≤ p.now s') := by
  induction ws generalizing s looked with
  | nil =>
    obtain ⟨rfl, -⟩ := Prod.mk.inj hl
    simp
  | cons w ws ih =>
    obtain ⟨⟨l, s₁⟩, hfirst⟩ : ∃ t, (look p w).run s = t := ⟨_, rfl⟩
    obtain ⟨⟨others, s₂⟩, hrest⟩ : ∃ t, (lookAll p ws).run s₁ = t := ⟨_, rfl⟩
    simp only [lookAll, run_bind, hfirst, hrest, run_pure] at hl
    obtain ⟨rfl, rfl⟩ := Prod.mk.inj hl
    have hs₁ := now_le (fun T => (hp.abides T).look w) hfirst
    have hs₂ := now_le (fun T => (hp.abides T).lookAll ws) hrest
    have hsame := look_same p w s
    rw [hfirst] at hsame
    intro l' hl' hd
    rcases List.mem_cons.mp hl' with rfl | hl'
    · obtain ⟨hw, hpause⟩ := h w List.mem_cons_self (hsame.descriptor ▸ hd)
      obtain ⟨hpause, hover⟩ := look_pauses hp hpause hfirst
      exact ⟨hsame.worker ▸ hw, hpause.later hs₂, fun hsome => Nat.le_trans (hover hsome) hs₂⟩
    · exact ih (fun w' hw' => h.later hs₁ w' (List.mem_cons_of_mem w hw')) hrest l' hl' hd

/-! ## Waits -/

theorem collectAll_stays {P : σ → Prop} (hc : ∀ d readiness, Stays P (p.collect d readiness))
    (ws : List (Watcher β)) : Stays P (collectAll p ws) := by
  induction ws with
  | nil => exact .pure _
  | cons w ws ih => exact (hc _ _).bind fun _ => ih.bind fun _ => .pure _

/-- Collected events are nothing to a pause. -/
theorem PausesAt.collected (h : PausesAt p W d T ws s) (hc : List.Forall₂ Collected ws ws') :
    PausesAt p W d T ws' s := by
  refine forall_mem_of_forall₂ hc (fun hw hpause => ?_) h
  obtain ⟨outcome, rfl⟩ := hw
  cases outcome <;> exact hpause

theorem collectAll_pauses (hp : Clocked p) (h : PausesAt p W d T ws s)
    (hc : (collectAll p ws).run s = (ws', s')) : PausesAt p W d T ws' s' := by
  have hcollected := collectAll_collected p ws s
  rw [hc] at hcollected
  exact (h.collected hcollected).later (now_le (fun T => collectAll_stays (hp.collect T) ws) hc)

/-- Nor is a wait, up to the point where time passes. -/
theorem look_wait_pauses (hp : Clocked p) (h : PausesAt p W d T ws s)
    (hl : (lookAll p ws).run s = (looked, s₁)) {s₂ : σ} {interruption : Option Interruption}
    (hi : p.interruption.run s₁ = (interruption, s₂)) :
    PausesAt p W d T (looked.map Prod.fst) s₂ := by
  intro w hw hd
  obtain ⟨l, hlm, rfl⟩ := List.mem_map.mp hw
  obtain ⟨hworker, hpause, -⟩ := lookAll_pauses hp h hl l hlm hd
  exact ⟨hworker, hpause.later (now_le hp.interruption hi)⟩

theorem Blocks.pauses (hp : Clocked p) (hb : Blocks p r s ws s')
    (h : PausesAt p W d T r.watchers s) : PausesAt p W d T ws s' := by
  obtain ⟨looked, s₁, s₂, hl, -, hi, hc⟩ := hb.path
  exact collectAll_pauses hp (look_wait_pauses hp h hl hi) hc

/-! ## Iterations -/

/-- What an encounter leaves of a watcher that stays. -/
structure Departs (p : Platform σ β) (x : Encounter σ β) (w : Watcher β) (s : σ) : Prop where
  descriptor : w.descriptor = x.watcher.descriptor
  uncalled : x.fate.isCalled = false → w = x.watcher
  called : ∀ answer left, x.fate = .answered answer left → w.worker = left
  /-- A pause begins when the worker has answered. -/
  pause : ∀ milliseconds, x.fate.sequel? p = some (.pause milliseconds) →
    Pauses p (p.now x.after + milliseconds) w s

theorem Departs.later (h : Departs p x w s) (hs : p.now s ≤ p.now s') : Departs p x w s' :=
  { h with pause := fun ms hms => (h.pause ms hms).later hs }

theorem schedule_departs (w : Watcher β) (dispatch : Dispatch) (hs : T ≤ p.now s) :
    ((schedule p w dispatch).run s).1.descriptor = w.descriptor ∧
      ((schedule p w dispatch).run s).1.worker = w.worker ∧
      ∀ milliseconds, dispatch = .pause milliseconds → Pauses p (T + milliseconds)
        ((schedule p w dispatch).run s).1 ((schedule p w dispatch).run s).2 := by
  cases dispatch with
  | idle => exact ⟨rfl, rfl, by simp⟩
  | pause ms =>
    refine ⟨rfl, rfl, fun ms' he => .inr ⟨p.now s + ms, rfl, ?_⟩⟩
    cases he
    omega
  | handled =>
    simp only [schedule, run_bind]
    cases ((p.probe w.descriptor w.readiness).run s).1 <;> exact ⟨rfl, rfl, by simp⟩

theorem serve_departs (hp : Clocked p) (stats : Stats) (l : Looked β) (s : σ)
    (hstays : ((serve p stats l).run s).1.1.2 = none) :
    Departs p (meet p l s) ((serve p stats l).run s).1.1.1 ((serve p stats l).run s).2 := by
  obtain ⟨w, _ | cause | ⟨⟨⟩⟩⟩ := l
  · exact ⟨rfl, fun _ => rfl, by simp [meet], by simp [meet, Fate.sequel?]⟩
  · simp [serve] at hstays
  · obtain ⟨⟨⟨answer, left⟩, s₁⟩, ha⟩ : ∃ t, (p.onReady w.worker).run s = t := ⟨_, rfl⟩
    have hmeet : meet p (w, some (.ok ())) s = ⟨w, .answered answer left, s, s₁⟩ := by
      simp only [meet, ha]
    rw [hmeet]
    simp only [serve, run_bind, ha] at hstays ⊢
    cases answer with
    | ok dispatch =>
      obtain ⟨hdescriptor, hworker, hpause⟩ :=
        schedule_departs { w with worker := left } dispatch (Nat.le_refl (p.now s₁))
      refine ⟨hdescriptor, by simp [Fate.isCalled], fun _ _ he => by cases he; exact hworker, ?_⟩
      exact fun ms hms => hpause ms (Option.some.inj hms)
    | error e =>
      cases he : e.isResource with
      | true => simp [he] at hstays
      | false =>
        -- The pause begins after the failure was reported.
        have hreport := now_le (fun T => (hp.abides T).report
          (Log.warn "frame failed" [w.labelField, ("error", e.message)])) (s := s₁) rfl
        obtain ⟨hdescriptor, hworker, hpause⟩ :=
          schedule_departs { w with worker := left } (p.afterError left) hreport
        simp only [he, Bool.false_eq_true, if_false, run_bind, run_pure]
        refine ⟨hdescriptor, by simp [Fate.isCalled], fun _ _ he => by cases he; exact hworker, ?_⟩
        intro ms hms
        simp only [Fate.sequel?, he, Bool.false_eq_true, if_false, Option.some.injEq] at hms
        exact hpause ms hms

/-- Whoever stays was left by an encounter. -/
theorem serveAll_departs (hp : Clocked p) (stats : Stats) (looked : List (Looked β)) (s : σ)
    (hw : (w, none) ∈ ((serveAll p stats looked).run s).1.1) :
    ∃ x ∈ meetAll p stats looked s, Departs p x w ((serveAll p stats looked).run s).2 := by
  induction looked generalizing stats s with
  | nil => cases (show (w, none) ∈ ([] : List (Served β)) from hw)
  | cons l looked ih =>
    simp only [serveAll, run_bind, run_pure, List.mem_cons] at hw ⊢
    rw [meetAll]
    rcases hw with hw | hw
    · have hserve := serve_departs hp stats l s (by rw [← hw])
      rw [← hw] at hserve
      exact ⟨_, List.mem_cons_self,
        hserve.later (now_le (fun T => (hp.abides T).serveAll _ looked) rfl)⟩
    · obtain ⟨x, hx, hdeparts⟩ := ih _ _ hw
      exact ⟨x, List.mem_cons_of_mem _ hx, hdeparts⟩

theorem Run.Serving.departs (hp : Clocked p) (h : r.Serving p s xs looked s₁)
    (ht : (r.turn p).run s = (.next r', s')) (hw : w ∈ r'.watchers) :
    ∃ x ∈ xs, Departs p x w s' := by
  rw [h.turn_run] at ht
  obtain ⟨hnext, rfl⟩ := Prod.mk.inj ht
  obtain rfl := Turn.next.inj hnext
  rw [h.met]
  have hserved := mem_survivors.mp hw
  obtain ⟨x, hx, hdeparts⟩ := serveAll_departs hp _ _ _ hserved
  exact ⟨x, hx, hdeparts.later (now_le (fun T => (hp.abides T).reportRemoved _) rfl)⟩

theorem Run.Serving.later (hp : Clocked p) (h : r.Serving p s xs looked s₁)
    (ht : (r.turn p).run s = (.next r', s')) : p.now s₁ ≤ p.now s' := by
  rw [h.turn_run] at ht
  obtain ⟨-, rfl⟩ := Prod.mk.inj ht
  exact now_le (fun T => (hp.abides T).iterate _ looked) rfl

/-- What is known of a worker is kept by its turns. -/
abbrev KeepsWorker (p : Platform σ β) (W : β → Prop) : Prop :=
  ∀ b s, W b → W ((p.onReady b).run s).1.2

/-- An iteration calls nobody whose pause is not over, and whoever pauses goes on pausing. -/
theorem Run.Serving.pauses (hp : Clocked p) (hW : KeepsWorker p W)
    (h : r.Serving p s xs looked s₁) (ht : (r.turn p).run s = (.next r', s'))
    (hpause : PausesAt p W d T r.watchers s) : PausesAt p W d T r'.watchers s' ∧
      ∀ x ∈ xs, x.fate.isCalled = true → x.watcher.descriptor = d →
        W x.watcher.worker ∧ T ≤ p.now x.before := by
  have hlooked := lookAll_pauses hp hpause h.look
  have hmet (x : Encounter σ β) (hx : x ∈ xs) (hd : x.watcher.descriptor = d) :=
    hlooked (x.watcher, x.fate.look) (meetAll_looked (h.met ▸ hx)) hd
  have hs' := h.later hp ht
  refine ⟨fun w hw hd => ?_, fun x hx hcalled hd => ?_⟩
  · obtain ⟨x, hx, hdeparts⟩ := h.departs hp ht hw
    obtain ⟨hworker, hpauses, hover⟩ := hmet x hx (hdeparts.descriptor ▸ hd)
    cases hfate : x.fate with
    | waited =>
      rw [hdeparts.uncalled (by rw [hfate]; rfl)]
      exact ⟨hworker, hpauses.later hs'⟩
    | failed cause =>
      rw [hdeparts.uncalled (by rw [hfate]; rfl)]
      exact ⟨hworker, hpauses.later hs'⟩
    | answered answer left =>
      have hover := hover (by rw [hfate]; rfl)
      have hturn := hW x.watcher.worker x.before hworker
      rw [meetAll_run (h.met ▸ hx) hfate] at hturn
      exact ⟨hdeparts.called answer left hfate ▸ hturn, .inl (Nat.le_trans hover hs')⟩
  · obtain ⟨hworker, -, hover⟩ := hmet x hx hd
    have hsome : x.fate.look.isSome = true := by
      cases hfate : x.fate <;> simp_all [Fate.isCalled, Fate.look]
    exact ⟨hworker, meetAll_before (hp.abides T) (h.met ▸ hx) (hover hsome)⟩

/-- A call that is answered with a pause begins it. -/
theorem Run.Serving.pause_begins (hp : Clocked p) (hW : KeepsWorker p W)
    (hdistinct : (xs.map (·.watcher.descriptor)).Nodup) (h : r.Serving p s xs looked s₁)
    (ht : (r.turn p).run s = (.next r', s')) (hx : x ∈ xs) (hworker : W x.watcher.worker)
    {milliseconds : Nat} (hpause : x.fate.sequel? p = some (.pause milliseconds)) :
    PausesAt p W x.watcher.descriptor (p.now x.after + milliseconds) r'.watchers s' := by
  intro w hw hd
  obtain ⟨y, hy, hdeparts⟩ := h.departs hp ht hw
  obtain rfl : y = x := List.inj_on_of_nodup_map hdistinct hy hx (hdeparts.descriptor ▸ hd)
  refine ⟨?_, hdeparts.pause milliseconds hpause⟩
  cases hfate : y.fate with
  | waited => simp [hfate, Fate.sequel?] at hpause
  | failed cause => simp [hfate, Fate.sequel?] at hpause
  | answered answer left =>
    have hturn := hW y.watcher.worker y.before hworker
    rw [meetAll_run (h.met ▸ hy) hfate] at hturn
    exact hdeparts.called answer left hfate ▸ hturn

/-! ## Turns -/

/-- The encounters of a turn. -/
def Run.encounters (p : Platform σ β) (r : Run β) (s : σ) : List (Encounter σ β) :=
  (r.iteration? p s).getD []

/-- Whoever pauses goes on pausing while the loop waits. -/
theorem Run.wait_pauses (hp : Clocked p) (hstop : p.stopRequested s = false)
    (hne : r.watchers.isEmpty = false) (hl : (lookAll p r.watchers).run s = (looked, s₁))
    (hn : ∀ l ∈ looked, l.2 = none) (h : PausesAt p W d T r.watchers s) {t : Turn β}
    (ht : (({ r with watchers := looked.map Prod.fst } : Run β).wait p).run s₁ = (t, s')) :
    PausesAt p W d T t.watchers s' := by
  obtain ⟨⟨interruption, s₂⟩, hi⟩ : ∃ t, p.interruption.run s₁ = t := ⟨_, rfl⟩
  have hlooked := look_wait_pauses hp h hl hi
  simp only [wait, run_bind, hi] at ht
  rcases interruption with _ | ⟨_ | _⟩
  · obtain ⟨⟨ws, s₃⟩, hc⟩ : ∃ t, (collectAll p (looked.map Prod.fst)).run s₂ = t := ⟨_, rfl⟩
    have hws := collectAll_pauses hp hlooked hc
    simp only [run_bind, hc] at ht
    cases hroused : ws.any Watcher.isRoused with
    | true =>
      simp only [hroused, Bool.not_true, Bool.false_eq_true, if_false, run_pure] at ht
      obtain ⟨rfl, rfl⟩ := Prod.mk.inj ht
      exact hws
    | false =>
      have hb : Blocks p r s ws s₃ := ⟨hstop, hne, ⟨looked, s₁, s₂, hl, hn, hi, hc⟩, hroused⟩
      simp only [hroused, Bool.not_false, if_true, run_bind, run_pure] at ht
      obtain ⟨rfl, rfl⟩ := Prod.mk.inj ht
      exact hws.later (hp.sleep r s ws s₃ hb)
  · obtain ⟨rfl, rfl⟩ := Prod.mk.inj ht
    exact hlooked
  · obtain ⟨rfl, rfl⟩ := Prod.mk.inj ht
    exact hlooked

/-- A turn calls nobody whose pause is not over, and whoever pauses goes on pausing. -/
theorem Run.turn_pauses (hp : Clocked p) (hW : KeepsWorker p W) {t : Turn β}
    (ht : (r.turn p).run s = (t, s')) (hpause : PausesAt p W d T r.watchers s) :
    PausesAt p W d T t.watchers s' ∧
      ∀ x ∈ r.encounters p s, x.fate.isCalled = true → x.watcher.descriptor = d →
        W x.watcher.worker ∧ T ≤ p.now x.before := by
  unfold encounters
  cases hx : r.iteration? p s with
  | some xs =>
    obtain ⟨looked, s₁, hserving⟩ := Run.serving hx
    obtain ⟨r', s'', ht', -⟩ := Run.turn_iterated hx
    obtain ⟨rfl, rfl⟩ := Prod.mk.inj (ht.symm.trans ht')
    exact hserving.pauses hp hW ht' hpause
  | none =>
    refine ⟨?_, by simp⟩
    cases hstop : p.stopRequested s with
    | true =>
      rw [turn_stopped r hstop] at ht
      obtain ⟨rfl, rfl⟩ := Prod.mk.inj ht
      exact hpause
    | false =>
      by_cases hne : r.watchers = []
      · rw [turn_deserted hstop hne] at ht
        obtain ⟨rfl, rfl⟩ := Prod.mk.inj ht
        simp [PausesAt, Turn.watchers]
      · obtain ⟨⟨looked, s₁⟩, hl⟩ : ∃ t, (lookAll p r.watchers).run s = t := ⟨_, rfl⟩
        have hempty : r.watchers.isEmpty = false := by simpa using hne
        have hready := not_ready hstop hne hx hl
        rw [turn_run r s hstop hempty hl, if_neg hready] at ht
        exact wait_pauses hp hstop hempty hl (by simpa using hready) hpause ht

end PacketLink.Reactor
