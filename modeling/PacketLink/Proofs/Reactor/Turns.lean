import PacketLink.Proofs.Reactor.Watchers

/-!
# Turns of the event loop

* `Inv`: what holds of the watchers between two turns: every descriptor has one watcher, and all
  watchers are sound.
* `Run.turn_stopped`, `Run.turn_deserted`, `Run.turn_run`: what a turn comes to. The lemmas on a
  lone watcher say it for a run that has only one.
* `Run.turn_inv`: a turn keeps the invariant, whether it serves, waits or ends.
* `Run.turn_total`: the counter of a run tells how much was handled at the descriptors.
-/

namespace PacketLink.Reactor

variable {σ β : Type} {p : Platform σ β} {v : View σ β} {ds : List Nat} {s s' : σ} {w : Watcher β}

/-! ## The invariant -/

/-- What holds of the watchers between two turns. -/
structure Inv (v : View σ β) (ds : List Nat) (s : σ) (ws : List (Watcher β)) : Prop where
  /-- Every descriptor has one watcher. -/
  distinct : (ws.map (·.descriptor)).Nodup
  /-- Only some descriptors are ever watched. -/
  places : ws.map (·.descriptor) ⊆ ds
  sound : ∀ w ∈ ws, Sound v s w

theorem Inv.quiet {ws : List (Watcher β)} (h : Inv v ds s ws) (hq : ∀ d r, v.Quiet d r s s') :
    Inv v ds s' ws :=
  ⟨h.distinct, h.places, fun w hw => (h.sound w hw).quiet (hq _ _)⟩

theorem mem_survivors {served : List (Served β)} :
    w ∈ survivors served ↔ (w, none) ∈ served := by
  simp only [survivors, List.mem_filterMap]
  constructor
  · rintro ⟨⟨w', failure⟩, hx, he⟩
    cases failure with
    | none =>
      cases he
      exact hx
    | some e => cases he
  · intro hx
    exact ⟨_, hx, rfl⟩

theorem survivors_sublist (served : List (Served β)) :
    ((survivors served).map (·.descriptor)).Sublist (served.map (·.1.descriptor)) := by
  induction served with
  | nil => exact .slnil
  | cons x served ih =>
    obtain ⟨w, failure⟩ := x
    cases failure with
    | none => exact ih.cons_cons _
    | some e => exact ih.cons _

theorem reportRemoved_quiet (hp : Laws p v) (served : List (Served β)) (d : Nat) (r : Readiness) :
    v.Quietly d r (reportRemoved p served) := by
  induction served with
  | nil => exact View.Quietly.pure ()
  | cons x served ih =>
    obtain ⟨w, failure⟩ := x
    refine ih.bind fun _ => ?_
    cases failure with
    | none => exact View.Quietly.pure ()
    | some e => exact hp.report_quiet _ d r

theorem Run.iterate_inv (hp : Laws p v) {r r' : Run β} {looked : List (Looked β)}
    (hd : (looked.map (·.1.descriptor)).Nodup) (hds : looked.map (·.1.descriptor) ⊆ ds)
    (h : ∀ l ∈ looked, Poised v s l) (hrun : (r.iterate p looked).run s = (r', s')) :
    Inv v ds s' r'.watchers := by
  simp only [iterate, run_bind, run_pure] at hrun
  obtain ⟨⟨⟨served, stats⟩, s₁⟩, hs⟩ : ∃ t, (serveAll p
    { r.stats with iterations := r.stats.iterations + 1 } looked).run s = t := ⟨_, rfl⟩
  rw [hs] at hrun
  obtain ⟨rfl, rfl⟩ := Prod.mk.inj hrun
  obtain ⟨hall, hplaces, -⟩ := serveAll_settled hp hd h hs
  rw [← hplaces] at hd hds
  have hsub := survivors_sublist served
  refine ⟨hsub.nodup hd, List.Subset.trans hsub.subset hds, fun w hw => ?_⟩
  exact (hall _ (mem_survivors.mp hw) rfl).quiet (reportRemoved_quiet hp served _ _ s₁)

/-- The watchers after a turn. -/
def Turn.watchers : Turn β → List (Watcher β)
  | .next r => r.watchers
  | .ended _ ws => ws

theorem Run.wait_inv (hp : Laws p v) {r : Run β} {t : Turn β}
    (hd : (r.watchers.map (·.descriptor)).Nodup) (hds : r.watchers.map (·.descriptor) ⊆ ds)
    (h : ∀ w ∈ r.watchers, Resting v s w) (hrun : (r.wait p).run s = (t, s')) :
    Inv v ds s' t.watchers := by
  have hi : Inv v ds s r.watchers := ⟨hd, hds, fun w hw => (h w hw).toSound⟩
  obtain ⟨⟨interruption, s₁⟩, hs⟩ : ∃ t, p.interruption.run s = t := ⟨_, rfl⟩
  have hq (d : Nat) (r : Readiness) : v.Quiet d r s s₁ := by
    have hq := hp.interruption_quiet d r s
    rwa [hs] at hq
  simp only [wait, run_bind, hs] at hrun
  match interruption, hrun with
  | some .stop, hrun =>
    obtain ⟨rfl, rfl⟩ := Prod.mk.inj hrun
    exact hi.quiet hq
  | some .abandon, hrun =>
    obtain ⟨rfl, rfl⟩ := Prod.mk.inj hrun
    exact hi.quiet hq
  | none, hrun =>
    obtain ⟨⟨ws, s₂⟩, hc⟩ : ∃ t, (collectAll p r.watchers).run s₁ = t := ⟨_, rfl⟩
    obtain ⟨hall, hplaces⟩ := collectAll_resting hp hd
      (fun w hw => ⟨(h w hw).toSound.quiet (hq _ _), (h w hw).unarmed⟩) hc
    have hi' : Inv v ds s₂ ws := ⟨hplaces ▸ hd, hplaces ▸ hds, fun w hw => (hall w hw).toSound⟩
    simp only [run_bind, hc] at hrun
    obtain ⟨rfl, rfl⟩ := Prod.mk.inj hrun
    cases ws.any Watcher.isRoused with
    | true => exact hi'
    | false => exact hi'.quiet fun d r => hp.sleep_quiet _ d r s₂

theorem Poised.resting {l : Looked β} (h : Poised v s l) (hn : l.2 = none) :
    Resting v s l.1 := by
  obtain ⟨w, outcome⟩ := l
  cases hn
  exact ⟨h.1, fun hr => (h.2 hr).1⟩

/-- How a run ends that has nobody to serve, or is asked to stop while nobody is ready. -/
def Run.upshot (r : Run β) : Ending :=
  match r.watchers, r.lastFailure with
  | [], some e => .failed e
  | _, _ => .finished r.stats

theorem Run.upshot_ne_abandoned (r : Run β) : r.upshot ≠ .abandoned := by
  unfold upshot
  split <;> exact Ending.noConfusion

theorem Run.stats_of_upshot {r : Run β} {stats : Stats} (h : r.upshot = .finished stats) :
    stats = r.stats := by
  unfold upshot at h
  split at h
  · cases h
  · cases h
    rfl

/-! A turn ends at once if the run is asked to stop or nobody is left. Otherwise everybody is looked
at. -/

theorem Run.turn_stopped (r : Run β) {s : σ} (hstop : p.stopRequested s = true) :
    (r.turn p).run s = (.ended (.finished r.stats) r.watchers, s) := by
  rw [turn, run_bind, run_get, if_pos hstop]
  rfl

theorem Run.turn_deserted {r : Run β} {s : σ} (hstop : p.stopRequested s = false)
    (hr : r.watchers = []) : (r.turn p).run s = (.ended r.upshot [], s) := by
  simp only [turn, run_bind, run_get, hstop, hr, Bool.false_eq_true, if_false, upshot]
  cases r.lastFailure <;> rfl

/-- After a look at everybody nobody is ready, or somebody is. -/
theorem Run.turn_run (r : Run β) (s : σ) (hstop : p.stopRequested s = false)
    (hne : r.watchers.isEmpty = false) {looked : List (Looked β)} {s₁ : σ}
    (hl : (lookAll p r.watchers).run s = (looked, s₁)) :
    (r.turn p).run s = if looked.any fun l => l.2.isSome then
      (.next ((({ r with watchers := looked.map Prod.fst } : Run β).iterate p looked).run s₁).1,
        ((({ r with watchers := looked.map Prod.fst } : Run β).iterate p looked).run s₁).2)
      else (({ r with watchers := looked.map Prod.fst } : Run β).wait p).run s₁ := by
  simp only [turn, run_bind, run_get, hstop, hne, Bool.false_eq_true, if_false, hl]
  cases looked.any fun l => l.2.isSome <;> rfl

/-- Looking at a watcher that neither pauses nor has an event to act on finds whether it is
armed. -/
theorem look_awake (hr : w.resumeAt = none) (hf : w.flagged = false) (hb : w.broken = none)
    (s : σ) : (look p w).run s = ((w, if w.armed then some (.ok ()) else none), s) := by
  rw [look, hr]
  cases ha : w.armed <;> simp only [lookAwake, ha, hb, hf, if_true, Bool.false_eq_true, if_false,
    run_pure]

theorem lookAll_lone {l : Looked β} (hl : (look p w).run s = (l, s')) :
    (lookAll p [w]).run s = ([l], s') := by
  simp only [lookAll, run_bind, hl, run_pure]

theorem collectAll_lone {outcome : Except Errno Bool}
    (hc : (p.collect w.descriptor w.readiness).run s = (outcome, s')) :
    (collectAll p [w]).run s = ([w.collected outcome], s') := by
  simp only [collectAll, run_bind, hc, run_pure]

/-- A turn with one watcher looks at it, and serves it if it is ready. -/
theorem Run.turn_lone_ready {r r' : Run β} (hr : r.watchers = [w])
    (hstop : p.stopRequested s = false) {w' : Watcher β} {outcome : Except Errno Unit} {s₁ : σ}
    (hl : (look p w).run s = ((w', some outcome), s₁))
    (hi : (({ r with watchers := [w'] } : Run β).iterate p [(w', some outcome)]).run s₁ =
      (r', s')) :
    (r.turn p).run s = (.next r', s') := by
  rw [turn_run r s hstop (by rw [hr]; rfl) (hr ▸ lookAll_lone hl)]
  exact congrArg (fun a => (Turn.next a.1, a.2)) hi

/-- It waits if it is not. -/
theorem Run.turn_lone_wait {r : Run β} (hr : r.watchers = [w]) (hstop : p.stopRequested s = false)
    {w' : Watcher β} {s₁ : σ} (hl : (look p w).run s = ((w', none), s₁)) :
    (r.turn p).run s = (({ r with watchers := [w'] } : Run β).wait p).run s₁ := by
  rw [turn_run r s hstop (by rw [hr]; rfl) (hr ▸ lookAll_lone hl)]
  rfl

/-- The complaint about a turn that failed for one frame only. -/
def frameFailed (w : Watcher β) (e : LinkError) : Log.Entry :=
  Log.warn "frame failed" [w.labelField, ("error", e.message)]

theorem serve_run_ok {b : β} {dispatch : Dispatch} {w' : Watcher β} {s₁ : σ} (stats : Stats)
    (ht : (p.onReady w.worker).run s = ((.ok dispatch, b), s₁))
    (hs : (schedule p { w with worker := b } dispatch).run s₁ = (w', s')) :
    (serve p stats (w, some (.ok ()))).run s =
      (((w', none), { stats with dispatched := stats.dispatched + 1 }.record dispatch), s') := by
  simp only [serve, run_bind, ht, hs, run_pure]

theorem serve_run_error {b : β} {e : LinkError} {w' : Watcher β} {s₁ : σ} (stats : Stats)
    (ht : (p.onReady w.worker).run s = ((.error e, b), s₁)) (he : e.isResource = false)
    (hs : (schedule p { w with worker := b } (p.afterError b)).run
      ((p.report (frameFailed w e)).run s₁).2 = (w', s')) :
    (serve p stats (w, some (.ok ()))).run s =
      (((w', none), { stats with
        dispatched := stats.dispatched + 1, frameErrors := stats.frameErrors + 1 }), s') := by
  have hs' : (schedule p { w with worker := b } (p.afterError b)).run
      ((p.report (frameFailed { w with worker := b } e)).run s₁).2 = (w', s') := hs
  rw [frameFailed] at hs'
  simp only [serve, run_bind, ht, he, Bool.false_eq_true, if_false, hs', run_pure]

/-- Serving one watcher that stays. -/
theorem Run.iterate_lone {r : Run β} {l : Looked β} {w' : Watcher β} {stats : Stats}
    (hs : (serve p { r.stats with iterations := r.stats.iterations + 1 } l).run s =
      (((w', none), stats), s')) :
    (r.iterate p [l]).run s = ({ r with watchers := [w'], stats }, s') := by
  simp only [iterate, serveAll, run_bind, hs, run_pure]
  rfl

/-- A turn keeps every watcher sound, whether it serves, waits or ends. -/
theorem Run.turn_inv (hp : Laws p v) {r : Run β} {t : Turn β} (hi : Inv v ds s r.watchers)
    (hrun : (r.turn p).run s = (t, s')) : Inv v ds s' t.watchers := by
  cases hstop : p.stopRequested s with
  | true =>
    rw [turn_stopped r hstop] at hrun
    obtain ⟨rfl, rfl⟩ := Prod.mk.inj hrun
    exact hi
  | false =>
    cases hne : r.watchers.isEmpty with
    | true =>
      rw [turn_deserted hstop (List.isEmpty_iff.mp hne)] at hrun
      obtain ⟨rfl, rfl⟩ := Prod.mk.inj hrun
      exact ⟨.nil, nofun, nofun⟩
    | false =>
      obtain ⟨⟨looked, s₁⟩, hl⟩ : ∃ t, (lookAll p r.watchers).run s = t := ⟨_, rfl⟩
      obtain ⟨hall, hplaces⟩ := lookAll_poised hp hi.distinct hi.sound hl
      rw [turn_run r s hstop hne hl] at hrun
      by_cases hready : (looked.any fun l => l.2.isSome) = true
      · rw [if_pos hready] at hrun
        obtain ⟨rfl, rfl⟩ := Prod.mk.inj hrun
        exact iterate_inv hp (hplaces ▸ hi.distinct) (hplaces ▸ hi.places) hall rfl
      · rw [if_neg hready] at hrun
        have hmap : (looked.map Prod.fst).map (·.descriptor) = r.watchers.map (·.descriptor) := by
          rw [List.map_map]
          exact hplaces
        refine wait_inv hp (hmap ▸ hi.distinct) (hmap ▸ hi.places) ?_ hrun
        · intro w hw
          obtain ⟨l, hlm, rfl⟩ := List.mem_map.mp hw
          refine (hall l hlm).resting ?_
          cases hn : l.2 with
          | none => rfl
          | some outcome => exact absurd (List.any_eq_true.mpr ⟨l, hlm, by rw [hn]; rfl⟩) hready

/-! ## Counting -/

theorem record_handled (stats : Stats) (dispatch : Dispatch) :
    (stats.record dispatch).handled = stats.handled + readBy (.ok dispatch) := by
  cases dispatch <;> rfl

/-- If all descriptors have readers, the counter of a run grows with what was handled at the
descriptors. -/
theorem serve_total (hp : Laws p v) (hread : v.AllRead ds) (hn : ds.Nodup) {stats stats' : Stats}
    {l : Looked β} {x : Served β}
    (hs : l.2 = some (.ok ()) → v.serves l.1.worker l.1.descriptor l.1.readiness)
    (hd : l.1.descriptor ∈ ds) (hrun : (serve p stats l).run s = ((x, stats'), s')) :
    ∃ k, stats'.handled = stats.handled + k ∧ v.total ds s' = v.total ds s + k := by
  match l, hs with
  | (w, none), _ =>
    obtain ⟨hx, rfl⟩ := Prod.mk.inj hrun
    obtain ⟨-, rfl⟩ := Prod.mk.inj hx
    exact ⟨0, rfl, rfl⟩
  | (w, some (.error e)), _ =>
    rw [serve, run_bind] at hrun
    obtain ⟨hx, rfl⟩ := Prod.mk.inj hrun
    obtain ⟨-, rfl⟩ := Prod.mk.inj hx
    exact ⟨0, rfl, View.Quietly.keeps_total (hp.report_quiet _) ds s⟩
  | (w, some (.ok ())), hs =>
    obtain ⟨⟨⟨answer, worker⟩, s₁⟩, ht⟩ : ∃ t, (p.onReady w.worker).run s = t := ⟨_, rfl⟩
    obtain ⟨-, hh⟩ := hp.onReady_reader _ _ _ _ _ _ _ (hs rfl) ht (hread _ hd)
    have htotal : v.total ds s₁ = v.total ds s + readBy answer := by
      refine View.total_add hn hd hh fun d hne => ?_
      have hq := hp.onReady_quiet w.worker w.descriptor w.readiness d .readable (hs rfl) hne s
      rw [ht] at hq
      exact hq.unread.handled
    simp only [serve, run_bind, ht] at hrun
    cases answer with
    | ok dispatch =>
      simp only [run_bind, run_pure] at hrun
      obtain ⟨hx, rfl⟩ := Prod.mk.inj hrun
      obtain ⟨-, rfl⟩ := Prod.mk.inj hx
      refine ⟨readBy (.ok dispatch), record_handled _ dispatch, ?_⟩
      exact (View.Quietly.keeps_total (schedule_quiet hp _ dispatch) ds s₁).trans htotal
    | error e =>
      by_cases he : e.isResource = true
      · simp only [he, if_true, run_bind, run_pure] at hrun
        obtain ⟨hx, rfl⟩ := Prod.mk.inj hrun
        obtain ⟨-, rfl⟩ := Prod.mk.inj hx
        refine ⟨0, rfl, ?_⟩
        exact (View.Quietly.keeps_total (hp.report_quiet _) ds s₁).trans htotal
      · have hoff := Bool.eq_false_iff.mpr he
        simp only [hoff, Bool.false_eq_true, if_false, run_bind, run_pure] at hrun
        obtain ⟨hx, rfl⟩ := Prod.mk.inj hrun
        obtain ⟨-, rfl⟩ := Prod.mk.inj hx
        refine ⟨0, rfl, (View.Quietly.keeps_total (schedule_quiet hp _ _) ds _).trans ?_⟩
        exact (View.Quietly.keeps_total (hp.report_quiet _) ds s₁).trans htotal

theorem serveAll_total (hp : Laws p v) (hread : v.AllRead ds) (hn : ds.Nodup) {stats stats' : Stats}
    {looked : List (Looked β)} {served : List (Served β)}
    (hs : ∀ l ∈ looked, l.2 = some (.ok ()) →
      v.serves l.1.worker l.1.descriptor l.1.readiness)
    (hds : looked.map (·.1.descriptor) ⊆ ds)
    (hrun : (serveAll p stats looked).run s = ((served, stats'), s')) :
    ∃ k, stats'.handled = stats.handled + k ∧ v.total ds s' = v.total ds s + k := by
  induction looked generalizing stats s served with
  | nil =>
    obtain ⟨hx, rfl⟩ := Prod.mk.inj hrun
    obtain ⟨-, rfl⟩ := Prod.mk.inj hx
    exact ⟨0, rfl, rfl⟩
  | cons l looked ih =>
    obtain ⟨⟨⟨x, stats₁⟩, s₁⟩, h₁⟩ : ∃ t, (serve p stats l).run s = t := ⟨_, rfl⟩
    obtain ⟨⟨⟨rest, stats₂⟩, s₂⟩, h₂⟩ : ∃ t, (serveAll p stats₁ looked).run s₁ = t := ⟨_, rfl⟩
    simp only [serveAll, run_bind, h₁, h₂, run_pure] at hrun
    obtain ⟨hx, rfl⟩ := Prod.mk.inj hrun
    obtain ⟨-, rfl⟩ := Prod.mk.inj hx
    rw [List.map_cons, List.cons_subset] at hds
    obtain ⟨k, hk, ht⟩ := serve_total hp hread hn (hs l (List.mem_cons_self ..)) hds.1 h₁
    obtain ⟨k', hk', ht'⟩ := ih (fun l hl => hs l (List.mem_cons_of_mem _ hl)) hds.2 h₂
    exact ⟨k + k', by omega, by omega⟩

theorem collectAll_keeps_total (hp : Laws p v) (ds : List Nat) (ws : List (Watcher β)) :
    Keeps (v.total ds) (collectAll p ws) := by
  induction ws with
  | nil => exact Keeps.pure _
  | cons w ws ih =>
    refine Keeps.bind (View.keeps_total (fun d s => ?_) ds) fun _ => ih.bind fun _ => Keeps.pure _
    by_cases hd : d = w.descriptor
    · rw [hd]
      exact hp.collect_unread _ _ s
    · exact (hp.collect_quiet _ _ d .readable hd s).unread

theorem lookAll_keeps_total (hp : Laws p v) (ds : List Nat) (ws : List (Watcher β)) :
    Keeps (v.total ds) (lookAll p ws) := by
  induction ws with
  | nil => exact Keeps.pure _
  | cons w ws ih =>
    exact (View.Quietly.keeps_total (look_quiet hp w) ds).bind fun _ =>
      ih.bind fun _ => Keeps.pure _

theorem Run.wait_keeps_total (hp : Laws p v) (ds : List Nat) (r : Run β) :
    Keeps (v.total ds) (r.wait p) := by
  refine (View.Quietly.keeps_total hp.interruption_quiet ds).bind fun interruption => ?_
  match interruption with
  | some .stop => exact Keeps.pure _
  | some .abandon => exact Keeps.pure _
  | none =>
    refine (collectAll_keeps_total hp ds _).bind fun ws => ?_
    cases ws.any Watcher.isRoused with
    | true => exact Keeps.pure _
    | false => exact (View.Quietly.keeps_total (hp.sleep_quiet _) ds).bind fun _ => Keeps.pure _

/-- How often workers answered in a turn that they had handled their descriptor, as the counters of
the run tell. -/
def Run.handledIn (r : Run β) : Turn β → Nat
  | .next r' => r'.stats.handled - r.stats.handled
  | .ended _ _ => 0

theorem Run.wait_handledIn (p : Platform σ β) (r r' : Run β) (s : σ) (hs : r'.stats = r.stats) :
    r.handledIn ((r'.wait p).run s).1 = 0 := by
  simp only [wait, run_bind]
  match (p.interruption.run s).1 with
  | some .stop => rfl
  | some .abandon => rfl
  | none =>
    have hz : r'.stats.handled - r.stats.handled = 0 := by rw [hs, Nat.sub_self]
    simp only [run_bind]
    generalize (collectAll p r'.watchers).run _ = collected
    cases collected.1.any Watcher.isRoused <;> exact hz

/-- If all descriptors have readers, the counter of a run tells what was handled in a turn. -/
theorem Run.turn_total (hp : Laws p v) (hread : v.AllRead ds) (hn : ds.Nodup) {r : Run β}
    {t : Turn β} (hi : Inv v ds s r.watchers) (hrun : (r.turn p).run s = (t, s')) :
    v.total ds s' = v.total ds s + r.handledIn t := by
  cases hstop : p.stopRequested s with
  | true =>
    rw [turn_stopped r hstop] at hrun
    obtain ⟨rfl, rfl⟩ := Prod.mk.inj hrun
    rfl
  | false =>
    cases hne : r.watchers.isEmpty with
    | true =>
      rw [turn_deserted hstop (List.isEmpty_iff.mp hne)] at hrun
      obtain ⟨rfl, rfl⟩ := Prod.mk.inj hrun
      rfl
    | false =>
      obtain ⟨⟨looked, s₁⟩, hl⟩ : ∃ t, (lookAll p r.watchers).run s = t := ⟨_, rfl⟩
      obtain ⟨hall, hplaces⟩ := lookAll_poised hp hi.distinct hi.sound hl
      have hlook := lookAll_keeps_total hp ds r.watchers s
      rw [hl] at hlook
      rw [turn_run r s hstop hne hl] at hrun
      by_cases hready : (looked.any fun l => l.2.isSome) = true
      · rw [if_pos hready] at hrun
        obtain ⟨rfl, rfl⟩ := Prod.mk.inj hrun
        obtain ⟨⟨⟨served, stats⟩, s₂⟩, hs⟩ : ∃ t, (serveAll p
          { r.stats with iterations := r.stats.iterations + 1 } looked).run s₁ = t := ⟨_, rfl⟩
        obtain ⟨k, hk, ht⟩ := serveAll_total hp hread hn (fun l hl => (hall l hl).serves)
          (hplaces ▸ hi.places) hs
        simp only [iterate, run_bind, hs, run_pure, handledIn, hk, Nat.add_sub_cancel_left]
        rw [View.Quietly.keeps_total (reportRemoved_quiet hp served) ds s₂, ht, hlook]
      · rw [if_neg hready] at hrun
        have hw := wait_keeps_total hp ds ({ r with watchers := looked.map Prod.fst } : Run β) s₁
        have hz := wait_handledIn p r ({ r with watchers := looked.map Prod.fst } : Run β) s₁ rfl
        rw [hrun] at hw hz
        rw [hz, hw, hlook]
        rfl

end PacketLink.Reactor
