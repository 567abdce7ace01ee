import PacketLink.Proofs.Reactor.Timeline
import PacketLink.Proofs.Session.Termination
import PacketLink.Proofs.Traffic.Sleep

/-!
# How fast a transmitter sends

* `Employs p inject`: some of the workers are transmitters.
* `IsAttempt`: a call in which a transmitter tried to send, with success or with a failure of that
  frame only.
* `attempts_paced`: after an attempt the delay of the plan passes before the next call, whatever
  becomes ready, whatever others do, and however often the loop stops and goes on.
* `surroundings_clocked`: in a session the clock is not turned back.
-/

namespace PacketLink.Session

open Reactor

variable {β : Type} {ws : List (Watcher β)}

/-! ## The clock of a session -/

theorem surroundings_abides (schedule : Schedule) (n : Nat) :
    Abides surroundings fun w => w.schedule = schedule ∧ w.now = n :=
  ⟨fun _ _ _ h => h, fun _ _ h => h, fun _ _ h => h⟩

/-- Whoever is not ready has time until the end of a pause. -/
theorem lookAll_resume (ws : List (Watcher Worker)) (w : World)
    (hn : ∀ l ∈ ((lookAll surroundings ws).run w).1, l.2 = none) :
    ∀ l ∈ ((lookAll surroundings ws).run w).1, ∀ t, l.1.resumeAt = some t → w.now ≤ t := by
  induction ws generalizing w with
  | nil => exact fun l hl => absurd hl List.not_mem_nil
  | cons v ws ih =>
    simp only [lookAll, run_bind, run_pure, List.mem_cons, forall_eq_or_imp] at hn ⊢
    have hnow := ((surroundings_abides w.schedule w.now).look v w ⟨rfl, rfl⟩).2
    refine ⟨fun t ht => ?_, fun l hl t ht => ?_⟩
    · have hfound := look_found v w
      rw [hn.1] at hfound
      cases hfound with
      | resting _ _ hdue _ _ =>
        have hlt : w.now < t := by simpa [isDue, ht] using hdue
        omega
    · have hle := ih _ hn.2 l hl t ht
      omega

/-- A session that is not interrupted is not overdue. -/
theorem interruption_now (w : World) : (interruption.run w).2.now = w.now ∧
    ((interruption.run w).1 = none → (interruption.run w).2.schedule = w.schedule ∧
      ∀ t, w.schedule.time? = some t → w.now ≤ t) := by
  unfold interruption
  simp only [run_bind, run_get]
  cases hs : w.schedule with
  | stopped => exact ⟨rfl, fun _ => ⟨hs, by simp [Schedule.time?]⟩⟩
  | stopAt t =>
    dsimp only
    split
    · exact ⟨rfl, fun hnone => by cases hnone⟩
    · refine ⟨rfl, fun _ => ⟨hs, fun t' ht => ?_⟩⟩
      cases ht
      omega
  | abandonAt t =>
    dsimp only
    split
    · exact ⟨rfl, fun hnone => by cases hnone⟩
    · refine ⟨rfl, fun _ => ⟨hs, fun t' ht => ?_⟩⟩
      cases ht
      omega
  | signals =>
    dsimp only
    cases w.host.signal with
    | none => exact ⟨rfl, fun _ => ⟨hs, by simp [Schedule.time?]⟩⟩
    | some signal => exact ⟨rfl, fun hnone => by cases hnone⟩

theorem le_earlier {n : Nat} {a b : Option Nat} (ha : ∀ t, a = some t → n ≤ t)
    (hb : ∀ t, b = some t → n ≤ t) : n ≤ (earlier a b).getD n := by
  cases a with
  | none =>
    cases b with
    | none => exact Nat.le_refl n
    | some t => exact hb t rfl
  | some t =>
    cases b with
    | none => exact ha t rfl
    | some t' => exact Nat.le_min.mpr ⟨ha t rfl, hb t' rfl⟩

/-- Collected events are nothing to the end of the first pause. -/
theorem earliestResume_collected {ws' : List (Watcher β)} (hc : List.Forall₂ Collected ws ws') :
    earliestResume ws' = earliestResume ws := by
  have hmap : ws'.filterMap (·.resumeAt) = ws.filterMap (·.resumeAt) := by
    induction hc with
    | nil => rfl
    | cons hw _ ih =>
      obtain ⟨outcome, rfl⟩ := hw
      cases outcome <;> simp only [Watcher.collected, List.filterMap_cons, ih]
  rw [earliestResume, hmap, earliestResume]

/-- When a session lets time pass, neither a pause nor the session is overdue. -/
theorem blocks_in_time {r : Run Worker} {ws : List (Watcher Worker)} {w w' : World}
    (hb : Blocks surroundings r w ws w') :
    (∀ t, earliestResume ws = some t → w'.now ≤ t) ∧
      ∀ t, w'.schedule.time? = some t → w'.now ≤ t := by
  obtain ⟨looked, w₁, w₂, hl, hn, hi, hc⟩ := hb.path
  have hlooked := (surroundings_abides w.schedule w.now).lookAll r.watchers w ⟨rfl, rfl⟩
  have hresume := lookAll_resume r.watchers w (by simpa [hl] using hn)
  have hi : interruption.run w₁ = (none, w₂) := hi
  obtain ⟨hnow, hnone⟩ := interruption_now w₁
  have hcollected := collectAll_stays (p := surroundings)
    (P := fun w => w.schedule = w₂.schedule ∧ w.now = w₂.now) (fun _ _ _ h => h)
    (looked.map Prod.fst) w₂ ⟨rfl, rfl⟩
  have hmarked := collectAll_collected surroundings (looked.map Prod.fst) w₂
  rw [hl] at hlooked hresume
  rw [hi] at hnow hnone
  rw [hc] at hcollected hmarked
  obtain ⟨hschedule, htime⟩ := hnone rfl
  rw [earliestResume_collected hmarked, hcollected.1, hcollected.2, hnow, hschedule]
  refine ⟨fun t ht => ?_, htime⟩
  obtain ⟨v, hv, hvt⟩ := List.mem_filterMap.mp (List.min?_mem ht)
  obtain ⟨l, hlm, rfl⟩ := List.mem_map.mp hv
  rw [hlooked.2]
  exact hresume l hlm t hvt

/-- In a session the clock is not turned back. -/
theorem surroundings_clocked : Clocked surroundings where
  abides T := ⟨fun _ _ _ h => h, fun _ _ h => h, fun _ _ h => h⟩
  interruption T w hT := by
    show T ≤ (interruption.run w).2.now
    rw [(interruption_now w).1]
    exact hT
  collect _ _ _ _ h := h
  sleep r w ws w' hb := le_earlier (blocks_in_time hb).1 (blocks_in_time hb).2

end PacketLink.Session

namespace PacketLink.Traffic

open PacketLink.Ring Reactor Session

variable {σ β : Type} {p : Platform σ β} {inject : Transmitter → β} {ws : List (Watcher β)} {s : σ}
  {past earlier between later : List (Event σ β)} {c c' : Encounter σ β} {x : Transmitter}

/-! ## Attempts -/

/-- Some of the workers are transmitters. Each of their turns is a turn on some host. -/
structure Employs (p : Platform σ β) (inject : Transmitter → β) : Prop where
  onReady : ∀ x s, ∃ h : Host, ((p.onReady (inject x)).run s).1 =
    ((x.onReady.run h).1.1, inject (x.onReady.run h).1.2)
  afterError : ∀ x, p.afterError (inject x) = x.afterError

/-- The worker pauses, or it failed for one frame only. -/
def IsAttempt : Fate β → Prop
  | .answered (.ok (.pause _)) _ => True
  | .answered (.error e) _ => e.isResource = false
  | .answered (.ok .idle) _ | .answered (.ok .handled) _ | .waited | .failed _ => False

/-- A transmitter with this plan. -/
def Follows (inject : Transmitter → β) (plan : TransmitPlan) (b : β) : Prop :=
  ∃ x, b = inject x ∧ x.plan = plan

theorem Employs.keepsWorker (he : Employs p inject) (plan : TransmitPlan) :
    KeepsWorker p (Follows inject plan) := by
  rintro b s ⟨x, rfl, rfl⟩
  obtain ⟨h, hrun⟩ := he.onReady x s
  refine ⟨(x.onReady.run h).1.2, by rw [hrun], ?_⟩
  exact (x.onReady_gives h).1

/-- After an attempt a transmitter pauses as planned. -/
theorem Employs.sequel_eq (he : Employs p inject) {s' : σ} {answer : Except LinkError Dispatch}
    {left : β} (hrun : (p.onReady (inject x)).run s = ((answer, left), s'))
    (ha : IsAttempt (.answered answer left)) :
    (Fate.answered answer left).sequel? p = some (.pause x.plan.delay) := by
  obtain ⟨h, hturn⟩ := he.onReady x s
  obtain ⟨hplan, hdispatch⟩ := x.onReady_gives h
  rw [hrun] at hturn
  obtain ⟨rfl, rfl⟩ := Prod.mk.inj hturn
  cases hanswer : (x.onReady.run h).1.1 with
  | ok dispatch =>
    rcases hdispatch dispatch hanswer with rfl | rfl
    · simp [hanswer, IsAttempt] at ha
    · rfl
  | error e =>
    have he' : e.isResource = false := by simpa [hanswer, IsAttempt] using ha
    simp [Fate.sequel?, he', he.afterError, Transmitter.afterError, hplan]

/-- Between an attempt of a transmitter and the next call of it the delay of its plan passes. -/
theorem attempts_paced (hp : Clocked p) (he : Employs p inject) (h : Timeline p ws s past)
    (hpast : past = earlier ++ .called c :: between ++ .called c' :: later)
    (hx : c.watcher.worker = inject x) (ha : IsAttempt c.fate)
    (hd : c'.watcher.descriptor = c.watcher.descriptor)
    (hr : .registered c.watcher.descriptor ∉ between) :
    (∃ x', c'.watcher.worker = inject x' ∧ x'.plan = x.plan) ∧
      p.now c.after + x.plan.delay ≤ p.now c'.before := by
  obtain ⟨answer, left, hfate, hrun⟩ := h.called_run (c := c) (by simp [hpast])
  rw [hx] at hrun
  rw [hfate] at ha
  have hpause := he.sequel_eq hrun ha
  rw [← hfate] at hpause
  -- Somebody else may be registered later, so the timeline is cut after the second call.
  obtain ⟨ws', s', tail, h', htail⟩ := h.until hpast
  rw [List.append_assoc, List.cons_append] at h'
  have hkept := h'.pause_kept hp (he.keepsWorker x.plan) rfl ⟨x, hx, rfl⟩ hpause (by
    simp [hr, htail])
  exact hkept.calls c' (by simp) hd

/-! ## A transmitter in two runs -/

theorem surroundings_employs : Employs surroundings Worker.transmitter where
  onReady _ w := ⟨w.host, rfl⟩
  afterError _ := rfl

/-- A transmitter at the first descriptor paused. -/
def isFirstPause : Event World Worker → Bool
  | .called ⟨⟨_, 0, _, .transmitter _, _, _, _, _⟩, .answered (.ok (.pause _)) _, _, _⟩ => true
  | _ => false

theorem exists_of_isFirstPause {e : Event World Worker} (h : isFirstPause e = true) :
    ∃ c x, e = .called c ∧ c.watcher.worker = .transmitter x ∧ c.watcher.descriptor = 0 ∧
      IsAttempt c.fate := by
  unfold isFirstPause at h
  split at h
  · exact ⟨_, _, rfl, rfl, rfl, trivial⟩
  · cases h

/-- The calls of a run that is given up after the first pause has begun, and of a run that goes
on. -/
def soloCalls : List (Event World Worker) :=
  Run.events surroundings 3 { watchers := [soloWatcher] } (soloWorld []) ++
    Run.events surroundings 1 { watchers := (soloRun [] 3).1.2 } (soloRun [] 3).2

theorem soloCalls_timeline : ∃ ws w,
    Timeline surroundings ws w (.registered 0 :: soloCalls) := by
  have h₁ : Timeline surroundings [soloWatcher] (soloWorld []) [.registered 0] :=
    (Timeline.start (soloWorld [])).register (w := soloWatcher) rfl
  have h₂ := h₁.loop (r := { watchers := [soloWatcher] }) 3
  exact ⟨_, _, h₂.loop (r := { watchers := (soloRun [] 3).1.2 }) 1⟩

/-- It attempts to send in the first run, and then in the second one. -/
theorem attempts_paced_solo : ∃ ws w between c c' x,
    Timeline surroundings ws w ([.registered 0] ++ .called c :: between ++ .called c' :: []) ∧
      c.watcher.worker = .transmitter x ∧ IsAttempt c.fate ∧ IsAttempt c'.fate ∧
      (∃ x', c'.watcher.worker = .transmitter x' ∧ x'.plan = x.plan) ∧
        surroundings.now c.after + x.plan.delay ≤ surroundings.now c'.before := by
  obtain ⟨ws, w, h⟩ := soloCalls_timeline
  have hcalls : soloCalls.length = 2 ∧ soloCalls.all isFirstPause = true := by decide +kernel
  obtain ⟨e, e', he⟩ := List.length_eq_two.mp hcalls.1
  rw [he] at h hcalls
  obtain ⟨⟨c, x, rfl, hx, hd, ha⟩, c', x', rfl, -, hd', ha'⟩ :
    (∃ c x, e = .called c ∧ _) ∧ ∃ c x, e' = .called c ∧ _ := by
      refine ⟨exists_of_isFirstPause ?_, exists_of_isFirstPause ?_⟩ <;> simp_all
  have hpast : [Event.registered 0, .called c, .called c'] =
    [.registered 0] ++ .called c :: [] ++ .called c' :: [] := rfl
  exact ⟨ws, w, [], c, c', x, h, hx, ha, ha', attempts_paced surroundings_clocked
    surroundings_employs h hpast hx ha (hd'.trans hd.symm) List.not_mem_nil⟩

end PacketLink.Traffic
