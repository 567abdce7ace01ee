import PacketLink.Proofs.Host.Rings
import PacketLink.Proofs.Reactor.Surroundings
import PacketLink.Proofs.Text.Decimal
import PacketLink.Reactor.Rehearsal

/-!
# Rehearsals obey the laws of the event loop

* `stageView`: what is known of the descriptors on a stage. The calls on record tell how much was
  read at a descriptor and how often it was handled.
* `rehearsal_laws`: no event is lost in a rehearsal, with actors that only their empty descriptor
  makes idle. What an actor sends to others arrives as anything else does.
-/

namespace PacketLink.Reactor

/-! ## What is known on a stage -/

/-- The name of the actor that reads from a descriptor. -/
def actorName (place : Nat) : String := "w" ++ toString place

theorem actorName_inj {d d' : Nat} (h : actorName d = actorName d') : d = d' := by
  have hdigits : toString d = toString d' := by simpa [actorName] using h
  exact Text.toString_toList_inj (congrArg String.toList hdigits)

namespace Stage

/-- A descriptor is watched for this readiness, and its events are kept. -/
def IsWatched (s : Stage) (place : Nat) (r : Readiness) : Prop :=
  s.watched[place]? = some r ∧ place < s.events.size

/-- The calls of the actor that reads from a descriptor. -/
def callsAt (s : Stage) (place : Nat) : List CallNote :=
  s.calls.filter fun c => c.label = actorName place

/-- The number of datagrams that were read from a descriptor. -/
def readAt (s : Stage) (place : Nat) : Nat :=
  (s.callsAt place).foldr (·.taken + ·) 0

/-- How often the actor of a descriptor answered that it had handled one. -/
def handledAt (s : Stage) (place : Nat) : Nat :=
  (s.callsAt place).countP fun c => c.answer = some .handled

instance (s : Stage) (place : Nat) (r : Readiness) : Decidable (s.IsWatched place r) :=
  inferInstanceAs (Decidable (_ ∧ _))

/-- The number of datagrams that wait at a descriptor that is watched. -/
def waitingAt (s : Stage) (place : Nat) : Nat :=
  if s.IsWatched place .readable then s.queues.getD place 0 else 0

end Stage

/-- An actor reads from this descriptor, and it does not answer that it is idle as long as it
follows its script. -/
structure Actor.Serves (a : Actor) (d : Nat) (r : Readiness) : Prop where
  place : a.place = d
  label : a.label = actorName d
  readable : r = .readable
  afterError : a.afterError ≠ .idle
  script : ∀ step ∈ a.script, step.result ≠ .ok .idle

/-- What can be known of the descriptors on a stage. Some of them have readers: actors that have no
script. -/
def stageView (readers : Nat → Prop) : View Stage Actor where
  level s place r := s.IsWatched place r ∧ s.level place r = true
  pending s place _ := s.events.getD place false = true
  arrived s place := s.readAt place + s.waitingAt place
  waiting := Stage.waitingAt
  handled := Stage.handledAt
  serves a d r := a.Serves d r ∧ (readers d → a.script = [])
  isReader := readers

/-! ## What happens on a stage -/

variable {readers : Nat → Prop} {s s' : Stage} {d place : Nat} {r : Readiness}

theorem unread_of_calls (s s' : Stage) (hc : s'.calls = s.calls) (d : Nat) :
    (stageView readers).Unread d s s' := by
  have hr : s'.readAt d = s.readAt d := by simp only [Stage.readAt, Stage.callsAt, hc]
  refine ⟨?_, by simp only [stageView, Stage.handledAt, Stage.callsAt, hc]⟩
  simp only [stageView, hr]
  omega

/-- The clock, the host and requests to stop are nothing to a descriptor. -/
theorem quiet_of_eq (s s' : Stage) (hq : s'.queues = s.queues) (hw : s'.watched = s.watched)
    (he : s'.events = s.events) (hc : s'.calls = s.calls) (d : Nat) (r : Readiness) :
    (stageView readers).Quiet d r s s' := by
  have hlevel : s'.level d r = s.level d r := by cases r <;> simp only [Stage.level, hq]
  refine ⟨unread_of_calls s s' hc d, fun hp => ?_, fun hl => .inl ?_⟩
  · simpa only [stageView, he] using hp
  · simpa only [stageView, Stage.IsWatched, hlevel, hw, he] using hl

/-- A datagram that arrives is no more than an arrival. -/
theorem feed_quiet (s : Stage) (place d : Nat) (r : Readiness) :
    (stageView readers).Quiet d r s (s.feed place) := by
  have hc : (s.feed place).calls = s.calls := rfl
  have hevents (x : Nat) (hx : x < s.events.size) : (s.feed place).events.getD x false =
      (s.events.getD x false || x = place && s.watched.getD place .readable = .readable) := by
    by_cases he : place = x <;>
      simp [Stage.feed, Array.getElem_modify, hx, he, eq_comm]
  refine ⟨unread_of_calls _ _ hc d, fun hp => ?_, ?_⟩
  · have hx : d < s.events.size := by
      refine Nat.lt_of_not_ge fun hge => ?_
      simp [stageView, Array.getElem?_eq_none hge] at hp
    exact (hevents d hx).trans (by rw [show s.events.getD d false = true from hp]; rfl)
  · rintro ⟨⟨hw, hsize⟩, hl⟩
    have hsize' : d < s.events.size := by simpa [Stage.feed] using hsize
    cases r with
    | writable => exact .inl ⟨⟨hw, hsize'⟩, rfl⟩
    | readable =>
      by_cases he : d = place
      · subst he
        refine .inr ((hevents d hsize').trans ?_)
        have hr : s.watched.getD d .readable = .readable := by
          simp [Array.getD_eq_getD_getElem?, show s.watched[d]? = some .readable from hw]
        simp [hr]
      · refine .inl ⟨⟨hw, hsize'⟩, ?_⟩
        simpa [Stage.level, Stage.feed, Array.getElem?_modify, Ne.symm he] using hl

theorem feedAll_quiet (readers : Nat → Prop) (s : Stage) (places : List Nat) (d : Nat)
    (r : Readiness) : (stageView readers).Quiet d r s (places.foldl Stage.feed s) := by
  induction places generalizing s with
  | nil => exact .refl s
  | cons place places ih => exact (feed_quiet s place d r).trans (ih _)

theorem requestStop_quiet (s : Stage) (d : Nat) (r : Readiness) :
    (stageView readers).Quiet d r s s.requestStop := by
  unfold Stage.requestStop
  by_cases h : s.stoppable = true
  · rw [if_pos h]
    exact quiet_of_eq s { s with stopped := true } rfl rfl rfl rfl d r
  · rw [if_neg h]
    exact .refl s

/-- Reading from one descriptor is nothing to the others. -/
theorem read_quiet (s : Stage) {place d : Nat} (h : d ≠ place) (wanted : Nat) (r : Readiness) :
    (stageView readers).Quiet d r s (s.read place wanted).2 := by
  have hc : (s.read place wanted).2.calls = s.calls := rfl
  have hq : (s.read place wanted).2.queues.getD d 0 = s.queues.getD d 0 := by
    simp [Stage.read, Array.getElem?_modify, Ne.symm h]
  refine ⟨unread_of_calls _ _ hc d, id, ?_⟩
  rintro ⟨hw, hl⟩
  refine .inl ⟨hw, ?_⟩
  cases r with
  | writable => rfl
  | readable =>
    simp only [Stage.level, hq] at hl
    exact hl

/-- Whoever wanted a datagram and got none has found its descriptor empty. -/
theorem level_of_read (s : Stage) (place wanted : Nat)
    (h : (s.read place (wanted + 1)).2.level place .readable = true) :
    0 < (s.read place (wanted + 1)).1 := by
  refine Nat.pos_of_ne_zero fun hz => ?_
  have hq : (s.read place (wanted + 1)).2.queues.getD place 0 = s.queues.getD place 0 := by
    simp only [Stage.read] at hz ⊢
    rw [hz]
    simp [Array.getElem?_modify]
  have hempty : s.queues.getD place 0 = 0 := by
    simp only [Stage.read] at hz
    omega
  simp only [Stage.level, hq, hempty] at h
  cases h

theorem callsAt_note (s : Stage) (a : Actor) (taken : Nat) (result : Except LinkError Dispatch)
    (d : Nat) : (s.note a taken result).callsAt d =
      if a.label = actorName d then
        ⟨s.now - s.start, a.label, taken, result.toOption⟩ :: s.callsAt d
      else s.callsAt d := by
  simp only [Stage.callsAt, Stage.note, List.filter_cons, decide_eq_true_eq]

/-- The call of one actor is nothing to the descriptors of the others. -/
theorem note_quiet (s : Stage) {a : Actor} (h : a.label ≠ actorName d) (taken : Nat)
    (result : Except LinkError Dispatch) (r : Readiness) :
    (stageView readers).Quiet d r s (s.note a taken result) := by
  have hc : (s.note a taken result).callsAt d = s.callsAt d := by rw [callsAt_note, if_neg h]
  refine ⟨⟨?_, ?_⟩, id, .inl⟩
  · have hr : (s.note a taken result).readAt d = s.readAt d := by simp only [Stage.readAt, hc]
    simp only [stageView, hr]
    omega
  · simp only [stageView, Stage.handledAt, hc]

/-- A turn of an actor that follows its script. -/
theorem onReady_step (readers : Nat → Prop) {a : Actor} {step : Step} {rest : List Step}
    (h : a.script = step :: rest) (s : Stage) : ∃ s₁ : Stage,
      a.onReady.run s = ((step.result, { a with script := rest }),
        s₁.note a (s.read a.place step.take).1 step.result) ∧
      (∀ d, d ≠ a.place → ∀ r, (stageView readers).Quiet d r s s₁) := by
  refine ⟨if step.stop then (step.feed.foldl Stage.feed (s.read a.place step.take).2).requestStop
    else step.feed.foldl Stage.feed (s.read a.place step.take).2, ?_, fun d hd r => ?_⟩
  · show a.onReady s = _
    simp only [Actor.onReady, h]
  · have hq := (read_quiet s hd step.take r).trans (feedAll_quiet readers _ step.feed d r)
    cases step.stop with
    | true => exact hq.trans (requestStop_quiet _ d r)
    | false => exact hq

/-- A turn of an actor that has done its script. -/
theorem onReady_nil {a : Actor} (h : a.script = []) (s : Stage) :
    a.onReady.run s = ((.ok (if 0 < (s.read a.place 1).1 then .handled else .idle), a),
      (s.read a.place 1).2.note a (s.read a.place 1).1
        (.ok (if 0 < (s.read a.place 1).1 then .handled else .idle))) := by
  show a.onReady s = _
  simp only [Actor.onReady, h]

/-- An actor leaves the descriptors of others alone. -/
theorem actor_quiet {a : Actor} {d d' : Nat} (h : a.Serves d r) (hd : d' ≠ d) (r' : Readiness) :
    (stageView readers).Quietly d' r' a.onReady := by
  intro s
  have hplace : d' ≠ a.place := h.place ▸ hd
  have hlabel : a.label ≠ actorName d' := fun he => hd (actorName_inj (he.symm.trans h.label))
  cases hscript : a.script with
  | nil =>
    rw [onReady_nil hscript]
    exact (read_quiet s hplace 1 r').trans (note_quiet _ hlabel _ _ r')
  | cons step rest =>
    obtain ⟨s₁, hrun, hq⟩ := onReady_step readers hscript s
    rw [hrun]
    exact (hq d' hplace r').trans (note_quiet _ hlabel _ _ r')

theorem actor_serves (readers : Nat → Prop) {a : Actor} (h : a.Serves d r) (s : Stage) :
    (a.onReady.run s).1.2.Serves d r := by
  obtain ⟨hp, hl, hr, he, hs⟩ := h
  cases hscript : a.script with
  | nil =>
    rw [onReady_nil hscript]
    exact ⟨hp, hl, hr, he, hs⟩
  | cons step rest =>
    obtain ⟨s₁, hrun, -⟩ := onReady_step readers hscript s
    rw [hrun]
    exact ⟨hp, hl, hr, he, fun x hx => hs x (hscript ▸ List.mem_cons_of_mem _ hx)⟩

/-- Only an actor that has done its script is idle, and only if nothing waits. -/
theorem actor_idle {a b : Actor} (h : a.Serves d r)
    (hrun : a.onReady.run s = ((.ok .idle, b), s')) : (stageView readers).FoundEmpty d r s' := by
  cases hscript : a.script with
  | nil =>
    rw [onReady_nil hscript] at hrun
    obtain ⟨hx, rfl⟩ := Prod.mk.inj hrun
    by_cases ht : 0 < (s.read a.place 1).1
    · rw [if_pos ht] at hx
      cases hx
    · refine ⟨_, fun hl => ht ?_, .refl _⟩
      obtain ⟨-, hl⟩ := hl
      rw [h.readable, ← h.place] at hl
      exact level_of_read s a.place 0 hl
  | cons step rest =>
    obtain ⟨s₁, hstep, -⟩ := onReady_step readers hscript s
    rw [hstep] at hrun
    obtain ⟨hx, -⟩ := Prod.mk.inj hrun
    exact absurd (Prod.mk.inj hx).1 (h.script step (hscript ▸ List.mem_cons_self ..))

/-- A reader that has handled its descriptor has read one datagram, and otherwise none. -/
theorem actor_reader {a b : Actor} {answer : Except LinkError Dispatch} (h : a.Serves d r)
    (hscript : a.script = []) (hrun : a.onReady.run s = ((answer, b), s')) :
    s'.readAt d = s.readAt d + readBy answer ∧ s'.handledAt d = s.handledAt d + readBy answer := by
  rw [onReady_nil hscript] at hrun
  obtain ⟨hx, rfl⟩ := Prod.mk.inj hrun
  obtain ⟨rfl, rfl⟩ := Prod.mk.inj hx
  have hcalls : (s.read a.place 1).2.callsAt d = s.callsAt d := rfl
  have hle : (s.read a.place 1).1 ≤ 1 := Nat.min_le_left ..
  simp only [Stage.readAt, Stage.handledAt, callsAt_note, h.label, if_true, hcalls, List.foldr_cons,
    List.countP_cons]
  by_cases ht : 0 < (s.read a.place 1).1
  · rw [if_pos ht]
    exact ⟨by simp only [readBy]; omega, rfl⟩
  · rw [if_neg ht]
    exact ⟨by simp only [readBy]; omega, rfl⟩

/-! ## The laws -/

theorem onHost_quiet (act : Sys α) (d : Nat) (r : Readiness) :
    (stageView readers).Quietly d r (onHost act) :=
  fun s => quiet_of_eq s { s with host := (act s.host).2 } rfl rfl rfl rfl d r

/-- Collecting the event of one descriptor leaves those of the others. -/
theorem collect_events (s : Stage) {place d : Nat} (h : d ≠ place) :
    (s.events.setIfInBounds place false).getD d false = s.events.getD d false := by
  simp [Ne.symm h]

theorem collect_watched (s : Stage) (place : Nat) (r : Readiness) {r' : Readiness}
    (h : ((rehearsal.collect place r).run s).2.IsWatched d r') : s.IsWatched d r' :=
  ⟨h.1, Nat.lt_of_lt_of_eq h.2 Array.size_setIfInBounds⟩

/-- A rehearsal loses no event. -/
theorem rehearsal_laws (readers : Nat → Prop) : Laws rehearsal (stageView readers) where
  probe_quiet place r d' r' s := onHost_quiet (Host.probe fun _ => s.level place r) d' r' s
  report_quiet e := onHost_quiet (Host.report e)
  interruption_quiet d r s := .refl s
  sleep_quiet resume d r s :=
    quiet_of_eq s { s with now := min s.limit (resume.getD s.limit) } rfl rfl rfl rfl d r
  collect_quiet place r d r' h s := by
    have hevents := collect_events s h
    refine ⟨unread_of_calls s ((rehearsal.collect place r).run s).2 rfl d,
      fun hp => hevents.trans hp, ?_⟩
    rintro ⟨hw, hl⟩
    exact .inl ⟨collect_watched s place r hw, hl⟩
  collect_unread place r s := unread_of_calls s ((rehearsal.collect place r).run s).2 rfl place
  collect_none place r s s' hrun := by
    obtain ⟨hfound, rfl⟩ := Prod.mk.inj hrun
    refine ⟨s, .refl s, ?_, ?_⟩
    · rintro ⟨⟨-, hl⟩, hp⟩
      rw [show s.events.getD place false = true from hp, hl] at hfound
      cases hfound
    · rintro ⟨hw, hl⟩
      exact .inl ⟨collect_watched s place r hw, hl⟩
  collect_failed place r s e s' hrun := by cases (Prod.mk.inj hrun).1
  probe_empty place r s s' hrun := by
    obtain ⟨hx, rfl⟩ := Prod.mk.inj hrun
    have hlevel := Host.probe_false (Prod.ext hx rfl)
    refine ⟨_, fun hl => ?_, .refl _⟩
    exact Bool.false_ne_true (hlevel.symm.trans hl.2)
  onReady_quiet a d r d' r' h hd := actor_quiet h.1 hd r'
  onReady_serves a d r s h := by
    refine ⟨actor_serves readers h.1 s, fun hd => ?_⟩
    rw [show rehearsal.onReady a = a.onReady from rfl, onReady_nil (h.2 hd)]
    exact h.2 hd
  onReady_idle a d r s b s' h hrun := actor_idle h.1 hrun
  afterError_idle a d r s e b s' h hrun _ he := by
    have hb := actor_serves readers h.1 s
    rw [show a.onReady.run s = ((.error e, b), s') from hrun] at hb
    exact absurd he hb.afterError
  onReady_reader a d r s answer b s' h hrun hd := by
    obtain ⟨hread, hhandled⟩ := actor_reader h.1 (h.2 hd) hrun
    refine ⟨?_, hhandled⟩
    simp only [stageView, hread]
    omega
  level_of_waiting a d r s h _ hw := by
    obtain ⟨hserves, -⟩ := h
    simp only [stageView, Stage.waitingAt] at hw
    by_cases hwatched : s.IsWatched d .readable
    · rw [if_pos hwatched] at hw
      rw [hserves.readable]
      exact ⟨hwatched, decide_eq_true hw⟩
    · rw [if_neg hwatched] at hw
      cases hw

/-! ## A reader on its own -/

/-- A reader at the first descriptor. -/
def solo : Watcher Actor where
  label := actorName 0
  descriptor := 0
  readiness := .readable
  worker := { place := 0, label := actorName 0, script := [], afterError := .handled }

/-- A stage with one descriptor, at which two datagrams wait. -/
def soloStage : Stage where
  host := .ofScript {}
  limit := 10
  queues := #[2]
  watched := #[.readable]
  events := #[true]

end PacketLink.Reactor
