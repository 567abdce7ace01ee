import PacketLink.Proofs.Session.Endless
import PacketLink.Proofs.Session.Return

/-!
# How a session ends

A session takes one stage after the other until one does not succeed. Then its link is closed, and
the session ends for the first reason that there was.

* `Stage`: the steps before closing. `Stage.perform` takes one of them, and `Course` says what
  became of them: they are taken in order, and none is taken after one that did not pass.
* `drive_follows`: what drives a session takes such a course.
* `Course.panicked`: a stage panics only if there is no memory for what is to be sent.
* `giveBack_run`: closing takes all its steps whatever happened before.
* `Settles`: what is known of a session that has ended. `run_settles`: it is known of every session,
  and a session that nothing keeps from its end comes to it.
* `run_endless`: a session that is to stop, at a time or by a signal, and never does.
-/

namespace PacketLink.Session

open Host Reactor

variable {turns : Nat} {config : SessionConfig} {resolver : Resolver}

/-! ## Stages -/

/-- The steps of a session before its link is closed. -/
inductive Stage where
  | opening
  | binding
  | starting
  | registering
  | reacting
  | stopping
deriving DecidableEq, Repr

/-- All of them, in order. -/
def Stage.all : List Stage := [.opening, .binding, .starting, .registering, .reacting, .stopping]

/-- What the session says about a stage that failed. -/
def Stage.context (config : SessionConfig) : Stage → String
  | .opening => "Failed to open link socket on " ++ config.interface
  | .binding => "Failed to bind link socket"
  | .starting => "Failed to start link socket"
  | .registering => "Failed to register link socket"
  | .reacting => "Reactor failed"
  | .stopping => "Failed to stop link socket"

/-- How a stage ends. -/
inductive Verdict where
  | passed
  | failed (cause : LinkError)
  | abandoned
  | panicked

/-- The verdict on an operation of the link. -/
def Verdict.of : Except LinkError Unit → Verdict
  | .ok () => .passed
  | .error e => .failed e

/-- What the stages work on. -/
structure Workpiece where
  link : LinkSocket
  /-- Whoever was registered. -/
  worker : Option Worker := none
  /-- The counters of the event loop. -/
  stats : Reactor.Stats := {}

/-- A stage that is one operation of the link. -/
def operate (act : Sys (Except LinkError Unit × LinkSocket)) (p : Workpiece) :
    StateM World (Verdict × Workpiece) := do
  let (outcome, link) ← onHost act
  pure (.of outcome, { p with link })

/-- Registers the worker of the link. -/
def enrol (config : SessionConfig) (p : Workpiece) : StateM World (Verdict × Workpiece) := do
  match ← enlist config p.link with
  | .error e => pure (.failed e, p)
  | .ok worker => pure (.passed, { p with worker := some worker })

/-- Runs the event loop over whoever was registered. -/
def react (turns : Nat) (p : Workpiece) : StateM World (Verdict × Workpiece) := do
  match p.worker with
  | none => pure (.passed, p)
  | some worker =>
    let (ending, left) ← runWorker turns worker
    let p := { p with link := withWorkers p.link left }
    match ending with
    | some (.finished stats) => pure (.passed, { p with stats })
    | some (.failed e) => pure (.failed e, p)
    | some .abandoned => pure (.abandoned, p)
    | none => pure (.panicked, p)

/-- Stops the link, and reports the counters. -/
def finish (p : Workpiece) : StateM World (Verdict × Workpiece) := do
  match ← onHost p.link.stop with
  | (.error e, link) => pure (.failed e, { p with link })
  | (.ok (), link) =>
    onHost (Host.report (finishedReport p.stats))
    pure (.passed, { p with link })

/-- Takes one stage. The event loop may take so many turns. -/
def Stage.perform (turns : Nat) (config : SessionConfig) (resolver : Resolver) :
    Stage → Workpiece → StateM World (Verdict × Workpiece)
  | .opening, p => operate (p.link.open resolver) p
  | .binding, p => operate p.link.bind p
  | .starting, p => operate p.link.start p
  | .registering, p => enrol config p
  | .reacting, p => react turns p
  | .stopping, p => finish p

/-- What became of stages: which of them were taken, with which verdict, and what they left. -/
inductive Course (turns : Nat) (config : SessionConfig) (resolver : Resolver) :
    List Stage → Workpiece → World → List (Stage × Verdict) → Workpiece → World → Prop where
  | done (p : Workpiece) (w : World) : Course turns config resolver [] p w [] p w
  /-- The next stage is taken after one that passed. -/
  | passed {s : Stage} {stages : List Stage} {p p' p'' : Workpiece} {w w' w'' : World}
    {record : List (Stage × Verdict)}
    (hp : (s.perform turns config resolver p).run w = ((.passed, p'), w'))
    (hc : Course turns config resolver stages p' w' record p'' w'') :
    Course turns config resolver (s :: stages) p w ((s, .passed) :: record) p'' w''
  /-- After one that did not pass no other is taken. -/
  | broken {s : Stage} {p p' : Workpiece} {w w' : World} {verdict : Verdict} (stages : List Stage)
    (hp : (s.perform turns config resolver p).run w = ((verdict, p'), w'))
    (hv : verdict ≠ .passed) :
    Course turns config resolver (s :: stages) p w [(s, verdict)] p' w'

/-- What a session that took these stages would end with, if its link could be closed. -/
def upshot (config : SessionConfig) (stats : Reactor.Stats) : List (Stage × Verdict) → Ending
  | [] => .finished stats
  | (_, .passed) :: record => upshot config stats record
  | (s, .failed e) :: _ => .failed ⟨some (s.context config), e⟩
  | (_, .abandoned) :: _ => .abandoned
  | (_, .panicked) :: _ => .panicked

/-- A computation takes these stages and gives what they come to. -/
def Follows (turns : Nat) (config : SessionConfig) (resolver : Resolver) (stages : List Stage)
    (p : Workpiece) (w : World) (ended : (Ending × LinkSocket) × World) : Prop :=
  ∃ record p' w', Course turns config resolver stages p w record p' w' ∧
    ended = ((upshot config p'.stats record, p'.link), w')

theorem Follows.passed {s : Stage} {stages : List Stage} {p p' : Workpiece} {w w' : World}
    {ended : (Ending × LinkSocket) × World}
    (hp : (s.perform turns config resolver p).run w = ((.passed, p'), w'))
    (h : Follows turns config resolver stages p' w' ended) :
    Follows turns config resolver (s :: stages) p w ended := by
  obtain ⟨record, p'', w'', hc, he⟩ := h
  exact ⟨_, p'', w'', .passed hp hc, he⟩

theorem Follows.failed {s : Stage} {p p' : Workpiece} {w w' : World} {e : LinkError}
    (stages : List Stage) (hp : (s.perform turns config resolver p).run w = ((.failed e, p'), w')) :
    Follows turns config resolver (s :: stages) p w
      ((.failed ⟨some (s.context config), e⟩, p'.link), w') :=
  ⟨_, p', w', .broken stages hp nofun, rfl⟩

theorem Follows.done (p : Workpiece) (w : World) :
    Follows turns config resolver [] p w ((.finished p.stats, p.link), w) :=
  ⟨[], p, w, .done p w, rfl⟩

theorem conclude_follows (p : Workpiece) (w : World) :
    Follows turns config resolver [.stopping] p w
      ((conclude p.link (some (.finished p.stats))).run w) := by
  obtain ⟨⟨⟨outcome, link⟩, h⟩, hstop⟩ : ∃ t, p.link.stop.run w.host = t := ⟨_, rfl⟩
  cases outcome with
  | error e =>
    have hp : (finish p).run w = ((.failed e, { p with link }), { w with host := h }) := by
      simp only [finish, run_bind, onHost_run hstop, run_pure]
    rw [conclude, run_bind, step_run _ hstop]
    exact .failed (s := .stopping) [] hp
  | ok =>
    have hp : (finish p).run w = ((.passed, { p with link }),
        { w with host := ((Host.report (finishedReport p.stats)).run h).2 }) := by
      simp only [finish, run_bind, onHost_run hstop, run_pure]
      rfl
    rw [conclude, run_bind, step_run _ hstop]
    exact .passed hp (.done _ _)

theorem react_follows (link : LinkSocket) (worker : Worker) (w : World) :
    Follows turns config resolver [.reacting, .stopping] { link, worker := some worker } w
      ((do
        let (ending, left) ← runWorker turns worker
        conclude (withWorkers link left) ending : StateM World (Ending × LinkSocket)).run w) := by
  obtain ⟨⟨⟨ending, left⟩, w₁⟩, hr⟩ : ∃ t, (runWorker turns worker).run w = t := ⟨_, rfl⟩
  let p : Workpiece := { link, worker := some worker }
  let p' : Workpiece := { p with link := withWorkers link left }
  rw [run_bind, hr]
  obtain _ | stats | e | _ := ending
  · have hp : (Stage.reacting.perform turns config resolver p).run w = ((.panicked, p'), w₁) := by
      simp only [Stage.perform, react, run_bind, p, hr]
      rfl
    exact ⟨_, p', w₁, .broken _ hp nofun, rfl⟩
  · have hp : (Stage.reacting.perform turns config resolver p).run w =
        ((.passed, { p' with stats }), w₁) := by
      simp only [Stage.perform, react, run_bind, p, hr]
      rfl
    exact .passed hp (conclude_follows { p' with stats } w₁)
  · have hp : (Stage.reacting.perform turns config resolver p).run w = ((.failed e, p'), w₁) := by
      simp only [Stage.perform, react, run_bind, p, hr]
      rfl
    exact .failed _ hp
  · have hp : (Stage.reacting.perform turns config resolver p).run w = ((.abandoned, p'), w₁) := by
      simp only [Stage.perform, react, run_bind, p, hr]
      rfl
    exact ⟨_, p', w₁, .broken _ hp nofun, rfl⟩

theorem work_follows (link : LinkSocket) (w : World) :
    Follows turns config resolver [.registering, .reacting, .stopping] { link } w
      ((work turns config link).run w) := by
  obtain ⟨⟨outcome, w₁⟩, he⟩ : ∃ t, (enlist config link).run w = t := ⟨_, rfl⟩
  rw [work, run_bind, he]
  cases outcome with
  | error e =>
    have hp : (enrol config { link }).run w = ((.failed e, { link }), w₁) := by
      simp only [enrol, run_bind, he, run_pure]
    exact .failed (s := .registering) _ hp
  | ok worker =>
    refine .passed ?_ (react_follows link worker w₁)
    simp only [Stage.perform, enrol, run_bind, he, run_pure]

theorem operate_run {act : Sys (Except LinkError Unit × LinkSocket)} {p : Workpiece} {w : World}
    {outcome : Except LinkError Unit} {link : LinkSocket} {h : Host}
    (ha : act.run w.host = ((outcome, link), h)) :
    (operate act p).run w = ((.of outcome, { p with link }), { w with host := h }) := by
  rw [operate, run_bind, onHost_run ha, run_pure]

/-- What drives a session takes its stages. -/
theorem drive_follows (link : LinkSocket) (w : World) :
    Follows turns config resolver Stage.all { link } w
      ((drive turns config resolver link).run w) := by
  obtain ⟨⟨⟨opened, link₁⟩, h₁⟩, hopen⟩ : ∃ t, (link.open resolver).run w.host = t := ⟨_, rfl⟩
  obtain ⟨⟨⟨bound, link₂⟩, h₂⟩, hbind⟩ : ∃ t, link₁.bind.run h₁ = t := ⟨_, rfl⟩
  obtain ⟨⟨⟨started, link₃⟩, h₃⟩, hstart⟩ : ∃ t, link₂.start.run h₂ = t := ⟨_, rfl⟩
  have hp₁ : (Stage.opening.perform turns config resolver { link }).run w = _ := operate_run hopen
  have hp₂ : (Stage.binding.perform turns config resolver { link := link₁ }).run
    { w with host := h₁ } = _ := operate_run hbind
  have hp₃ : (Stage.starting.perform turns config resolver { link := link₂ }).run
    { w with host := h₂ } = _ := operate_run hstart
  rw [drive, run_bind, setUp, run_bind, step_run _ hopen]
  cases opened with
  | error e => exact .failed _ hp₁
  | ok =>
    refine .passed hp₁ ?_
    dsimp only [Except.mapError]
    rw [run_bind, step_run (w := { w with host := h₁ }) _ hbind]
    cases bound with
    | error e => exact .failed _ hp₂
    | ok =>
      refine .passed hp₂ ?_
      dsimp only [Except.mapError]
      rw [step_run (w := { w with host := h₂ }) _ hstart]
      cases started with
      | error e => exact .failed _ hp₃
      | ok => exact .passed hp₃ (work_follows link₃ _)

/-! ## In order, and none after the first that did not pass -/

variable {stages : List Stage} {record : List (Stage × Verdict)} {p p' : Workpiece} {w w' : World}

/-- All stages passed, or all did before one that did not, and none was taken after it. -/
theorem Course.record_eq (hc : Course turns config resolver stages p w record p' w') :
    record = stages.map (·, .passed) ∨ ∃ before stage after verdict,
      stages = before ++ stage :: after ∧ verdict ≠ .passed ∧
        record = before.map (·, .passed) ++ [(stage, verdict)] := by
  induction hc with
  | done => exact .inl rfl
  | @passed s _ _ _ _ _ _ _ _ _ _ ih =>
    obtain rfl | ⟨before, stage, after, verdict, rfl, hv, rfl⟩ := ih
    · exact .inl rfl
    · exact .inr ⟨s :: before, stage, after, verdict, rfl, hv, rfl⟩
  | @broken s _ _ _ _ verdict after _ hv => exact .inr ⟨[], s, after, verdict, rfl, hv, rfl⟩

theorem upshot_passed (stats : Reactor.Stats) (before : List Stage)
    (record : List (Stage × Verdict)) :
    upshot config stats (before.map (·, .passed) ++ record) = upshot config stats record := by
  induction before with
  | nil => rfl
  | cons s before ih => exact ih

/-! ## The link and the worker -/

/-- The link is not closed, and the worker is one for its settings. -/
structure Workpiece.Fits (config : SessionConfig) (p : Workpiece) : Prop where
  lasts : p.link.Lasts config.link
  suits : ∀ worker, p.worker = some worker → Suits config worker

theorem operate_fits {act : Sys (Except LinkError Unit × LinkSocket)} (hp : p.Fits config)
    (ha : Gives (fun a => a.2.Lasts config.link) act) :
    Gives (fun a => a.2.Fits config) (operate act p) :=
  fun w => ⟨ha w.host, hp.suits⟩

theorem withWorkers_lasts {link : LinkSocket} (hl : link.Lasts config.link)
    (left : List (Watcher Worker)) : (withWorkers link left).Lasts config.link := by
  induction left generalizing link with
  | nil => exact hl
  | cons v left ih => exact ih (hl.putBack v.worker)

theorem enrol_fits (hp : p.Fits config) : Gives (fun a => a.2.Fits config) (enrol config p) := by
  intro w
  obtain ⟨⟨outcome, w₁⟩, he⟩ : ∃ t, (enlist config p.link).run w = t := ⟨_, rfl⟩
  rw [enrol, run_bind, he]
  cases outcome with
  | error e => exact hp
  | ok worker =>
    refine ⟨hp.lasts, fun b hb => ?_⟩
    cases hb
    exact worker?_suits hp.lasts.config (worker?_of_enlist he)

theorem react_fits (hp : p.Fits config) : Gives (fun a => a.2.Fits config) (react turns p) := by
  unfold react
  cases hb : p.worker with
  | none => exact .pure hp
  | some worker =>
    refine .then fun ⟨ending, left⟩ => ?_
    have hf : ({ p with link := withWorkers p.link left } : Workpiece).Fits config :=
      ⟨withWorkers_lasts hp.lasts left, hp.suits⟩
    rw [hb] at hf
    obtain _ | stats | e | _ := ending
    · exact .pure hf
    · exact .pure ⟨hf.lasts, hf.suits⟩
    · exact .pure hf
    · exact .pure hf

theorem finish_fits (hp : p.Fits config) : Gives (fun a => a.2.Fits config) (finish p) := by
  intro w
  have hl := hp.lasts.stop w.host
  obtain ⟨⟨⟨outcome, link⟩, h⟩, hs⟩ : ∃ t, p.link.stop.run w.host = t := ⟨_, rfl⟩
  rw [hs] at hl
  rw [finish, run_bind, onHost_run hs]
  cases outcome with
  | error e => exact ⟨hl, hp.suits⟩
  | ok => exact ⟨hl, hp.suits⟩

/-- A stage leaves the link unclosed, and a worker that fits. -/
theorem Stage.perform_fits (hp : p.Fits config) (s : Stage) :
    Gives (fun a => a.2.Fits config) (s.perform turns config resolver p) := by
  cases s with
  | opening => exact operate_fits hp (hp.lasts.open resolver)
  | binding => exact operate_fits hp hp.lasts.bind
  | starting => exact operate_fits hp hp.lasts.start
  | registering => exact enrol_fits hp
  | reacting => exact react_fits hp
  | stopping => exact finish_fits hp

theorem Course.fits (hc : Course turns config resolver stages p w record p' w')
    (hp : p.Fits config) : p'.Fits config := by
  induction hc with
  | done => exact hp
  | @passed s _ p _ _ w _ _ _ hs _ ih =>
    have hf : ((s.perform turns config resolver p).run w).1.2.Fits config := s.perform_fits hp w
    rw [hs] at hf
    exact ih hf
  | @broken s p _ w _ _ _ hs _ =>
    have hf : ((s.perform turns config resolver p).run w).1.2.Fits config := s.perform_fits hp w
    rw [hs] at hf
    exact hf

/-! ## Panics -/

/-- Only the event loop panics, over a worker that does. -/
theorem Stage.perform_panicked {s : Stage}
    (hs : ((s.perform turns config resolver p).run w).1.1 = .panicked) :
    ∃ worker, p.worker = some worker ∧ worker.panics = true := by
  have hoperate (act : Sys (Except LinkError Unit × LinkSocket)) :
      Gives (fun a => a.1 ≠ .panicked) (operate act p) :=
    .then fun ⟨outcome, _⟩ => .pure (by cases outcome <;> nofun)
  cases s with
  | opening => exact absurd hs (hoperate _ w)
  | binding => exact absurd hs (hoperate _ w)
  | starting => exact absurd hs (hoperate _ w)
  | registering =>
    have henrol : Gives (fun a => a.1 ≠ .panicked) (enrol config p) :=
      .then fun outcome => by cases outcome <;> exact .pure nofun
    exact absurd hs (henrol w)
  | stopping =>
    have hfinish : Gives (fun a => a.1 ≠ .panicked) (finish p) := by
      refine .then fun ⟨outcome, link⟩ => ?_
      cases outcome with
      | error e => exact .pure nofun
      | ok => exact .then fun _ => .pure nofun
    exact absurd hs (hfinish w)
  | reacting =>
    change ((react turns p).run w).1.1 = .panicked at hs
    unfold react at hs
    cases hb : p.worker with
    | none =>
      rw [hb] at hs
      cases hs
    | some worker =>
      refine ⟨worker, rfl, Bool.of_not_eq_false fun hn => ?_⟩
      rw [hb] at hs
      simp only [runWorker, hn, Bool.false_eq_true, if_false, run_bind, run_pure] at hs
      generalize ((Reactor.run surroundings turns [watcherOf worker]).run w).1.1 = ending at hs
      cases ending <;> cases hs

theorem Course.panicked (hc : Course turns config resolver stages p w record p' w')
    (hp : p.Fits config) {stage : Stage} (hs : (stage, .panicked) ∈ record) :
    config.role = .transmitter ∧ Frame.panics config.payloadLength = true := by
  induction hc with
  | done => cases hs
  | @passed s _ p _ _ w _ _ _ hr _ ih =>
    have hf : ((s.perform turns config resolver p).run w).1.2.Fits config := s.perform_fits hp w
    rw [hr] at hf
    exact ih hf ((List.mem_cons.mp hs).resolve_left nofun)
  | @broken s p _ w _ verdict _ hr _ =>
    have hv := (congrArg Prod.snd (List.mem_singleton.mp hs)).symm
    obtain ⟨worker, hb, hpanics⟩ := s.perform_panicked (p := p) (w := w) (by rw [hr]; exact hv)
    exact (hp.suits worker hb).panics hpanics

/-! ## Closing -/

/-- What a session ends with once its link was closed, and this failed. A failure before that comes
first. -/
def Ending.afterClosing (failed : List LinkError) : Ending → Ending
  | .finished stats =>
    match LinkSocket.teardownOutcome failed with
    | .ok () => .finished stats
    | .error e => .failed ⟨some "Failed to close link socket", e⟩
  | .failed cause => .failed cause
  | .abandoned => .abandoned
  | .panicked => .panicked

theorem tearDown_run {link : LinkSocket} (hs : link.state ≠ .closed) {ending : Ending}
    (he : ending.IsReached) (w : World) :
    ∃ failed, Disposed link.disposals w.host ((tearDown ending link).run w).2.host failed ∧
      ((tearDown ending link).run w).1 = ending.afterClosing failed := by
  obtain ⟨-, ⟨failed, hd, ho⟩, -, -⟩ := LinkSocket.close_disposes hs w.host
  obtain ⟨⟨⟨outcome, link'⟩, h⟩, hrun⟩ : ∃ t, link.close.run w.host = t := ⟨_, rfl⟩
  rw [hrun] at hd ho
  dsimp only at ho
  refine ⟨failed, ?_⟩
  rw [tearDown, run_bind, onHost_run hrun]
  cases ending with
  | finished stats =>
    rw [Ending.afterClosing, ← ho]
    cases outcome with
    | ok => exact ⟨hd, rfl⟩
    | error e => exact ⟨hd, rfl⟩
  | failed cause =>
    cases outcome with
    | ok => exact ⟨hd, rfl⟩
    | error e => exact ⟨hd, rfl⟩
  | abandoned => exact he.elim
  | panicked => exact he.elim

theorem discard_run {link : LinkSocket} (hs : link.state ≠ .closed) (w : World) :
    ∃ failed, Disposed link.disposals w.host ((onHost link.discard).run w).2.host failed := by
  let dropped : Log.Entry :=
    Log.warn "link socket dropped without close" [("state", link.state.label)]
  let k : Host := ((Host.report dropped).run w.host).2
  obtain ⟨-, ⟨failed, hd, -⟩, -, -⟩ := LinkSocket.close_disposes hs k
  obtain ⟨⟨⟨outcome, link'⟩, h⟩, hrun⟩ : ∃ t, link.close.run k = t := ⟨_, rfl⟩
  rw [hrun] at hd
  refine ⟨failed, ?_⟩
  show Disposed _ _ (link.discard.run w.host).2 failed
  rw [LinkSocket.discard, if_neg hs, run_bind, run_bind, hrun]
  cases outcome with
  | ok => exact hd
  | error e => exact hd

/-- Whatever happened before, all steps of closing are taken. -/
theorem giveBack_run {link : LinkSocket} (hs : link.state ≠ .closed) (ending : Ending) (w : World) :
    ∃ failed, Disposed link.disposals w.host ((giveBack ending link).run w).2.host failed ∧
      ((giveBack ending link).run w).1 = ending.afterClosing failed := by
  cases ending with
  | finished stats =>
    have he : (Ending.finished stats).IsReached := trivial
    exact tearDown_run hs he w
  | failed cause =>
    have he : (Ending.failed cause).IsReached := trivial
    exact tearDown_run hs he w
  | abandoned =>
    obtain ⟨failed, hd⟩ := discard_run hs w
    exact ⟨failed, hd, rfl⟩
  | panicked =>
    obtain ⟨failed, hd⟩ := discard_run hs w
    exact ⟨failed, hd, rfl⟩

/-! ## A session without end -/

/-- Whether a frame waits for a receiver without a ring, and nothing stops the loop from waiting. -/
def isLured (c : Run Worker × World) : Bool :=
  (interruption.run c.2).1.isNone &&
  c.1.watchers.any fun v =>
    match v.worker with
    | .receiver x =>
      match x.channel with
      | .socket s => level c.2.host s.id.number .readable
      | .ring _ => false
    | .transmitter _ => false

theorem exists_of_isLured {worker : Worker} {w' : World}
    (hl : isLured ({ watchers := [watcherOf worker] }, w') = true) :
    interruption.run w' = (none, w') ∧ ∃ x socket, worker = .receiver x ∧
      x.channel = .socket socket ∧ level w'.host socket.id.number .readable = true := by
  rw [isLured, Bool.and_eq_true, Option.isNone_iff_eq_none, List.any_cons, List.any_nil,
    Bool.or_false] at hl
  obtain ⟨hnone, hl⟩ := hl
  refine ⟨interruption_none hnone, ?_⟩
  cases worker with
  | receiver x =>
    cases hx : x.channel with
    | socket s => exact ⟨x, s, rfl, hx, by simpa [watcherOf, hx] using hl⟩
    | ring r => simp [watcherOf, hx] at hl
  | transmitter x => simp [watcherOf] at hl

/-- A session is given up if a frame waits for its receiver and the socket is cut off, however many
turns it may take and whatever is to stop it later. -/
theorem run_abandoned {c : Run Worker × World} (hs : Severed w.host.script)
    (hstop : w.stopped = false) (hc : start? config resolver w = some c) (hl : isLured c = true)
    (turns : Nat) : ((run turns config resolver).run w).1 = .abandoned := by
  have houtlook := start?_outlook hc
  simp only [outlook, Prod.mk.injEq] at houtlook
  obtain ⟨hscript, -, hstopped⟩ := houtlook
  obtain ⟨link, w', worker, hsetUp, henlist, hrun⟩ := enlist_of_start? hc
  obtain ⟨r, w₁⟩ := c
  obtain rfl : r = { watchers := [watcherOf worker] } := hrun
  obtain ⟨hi, x, socket, rfl, hx, hready⟩ := exists_of_isLured hl
  have hevent : w₁.event = true := by
    rw [event_of_enlist henlist]
    show level _ (((socketOf x.channel).map fun s => s.id.number).getD 0) .readable = true
    rw [hx]
    exact hready
  have hgiven := runWorker_endless (hscript ▸ hs) hx (hstopped.trans hstop) hi hevent hready turns
  obtain ⟨⟨⟨ending, left⟩, w''⟩, hworker⟩ :
    ∃ a, (runWorker turns (.receiver x)).run w₁ = a := ⟨_, rfl⟩
  rw [hworker] at hgiven
  obtain rfl : ending = some .abandoned := hgiven
  rw [run, run_bind, drive, run_bind, hsetUp]
  simp only [work, run_bind, henlist, hworker]
  rfl

/-- The settings of a receiver without a ring. -/
def severedSettings : Config where
  mode := some .receive
  linkSap := some 0x88B5
  interface := some "eth0"
  frame := some .ieee8023

/-- What these settings come to. -/
def severedConfig : SessionConfig where
  role := .receiver
  interface := "eth0"
  kind := .ieee8023
  linkSap := 0x88B5
  txDelay := 0
  ringFrames := none
  payloadLength := 10

/-- A frame waits, but neither receiving nor looking at a descriptor ever succeeds. A signal arrives
while the program tries to receive for the first time. -/
def severedScript : Script where
  interfaces := [⟨"eth0", 3, .zero⟩]
  inbound := [.whole (List.replicate 15 0xFF)]
  lasting c := if c = .receive ∨ c = .poll then Errno.badDescriptor.code else 0
  raise := some (.receive, 0, .terminate)

/-- Such a world for a session that is to stop at a time, or by the signal. -/
def severedWorld (schedule : Schedule) : World := .begin (ofScript severedScript) schedule

/-! ## The outcome -/

/-- What a session ends with, if these stages are on record and this failed of closing. -/
structure Accounts (config : SessionConfig) (stats : Reactor.Stats)
    (record : List (Stage × Verdict)) (failed : List LinkError) (ending : Ending) : Prop where
  /-- It finished exactly if everything succeeded, with the counters of the event loop. -/
  finished_iff : ∀ stats', ending = .finished stats' ↔
    record = Stage.all.map (·, .passed) ∧ failed = [] ∧ stats' = stats
  /-- The stage that failed is what it failed for, even if closing failed, too. -/
  blame : ∀ stage cause, (stage, .failed cause) ∈ record →
    ending = .failed ⟨some (stage.context config), cause⟩
  /-- A failure of closing is what it failed for only if everything before succeeded. -/
  teardown : record = Stage.all.map (·, .passed) → ∀ cause,
    LinkSocket.teardownOutcome failed = .error cause →
      ending = .failed ⟨some "Failed to close link socket", cause⟩
  abandoned_iff : ending = .abandoned ↔ ∃ stage, (stage, .abandoned) ∈ record
  panicked_iff : ending = .panicked ↔ ∃ stage, (stage, .panicked) ∈ record

/-- What is known of a session of which the event loop may take so many turns: it took the stages on
`record`, which left `p` and the world `w'`, and `failed` are the failures of closing its link. -/
structure Settles (turns : Nat) (config : SessionConfig) (resolver : Resolver) (w : World)
    (record : List (Stage × Verdict)) (p : Workpiece) (w' : World) (failed : List LinkError)
    (ending : Ending) (w'' : World) : Prop
    extends Accounts config p.stats record failed ending where
  course : Course turns config resolver Stage.all { link := .new config.link } w record p w'
  /-- All stages passed, or all before one that did not, and none was taken after it. -/
  order : record = Stage.all.map (·, .passed) ∨ ∃ before stage after verdict,
    Stage.all = before ++ stage :: after ∧ verdict ≠ .passed ∧
      record = before.map (·, .passed) ++ [(stage, verdict)]
  /-- The link was not closed before, and now it is. -/
  unclosed : p.link.state ≠ .closed
  closes : p.link.Closes w'.host
  /-- Whatever happened, every step of closing was taken once, and nothing else. -/
  disposed : Disposed p.link.disposals w'.host w''.host failed
  /-- It panics only if there is no memory for what its transmitter sends. -/
  panics : ending = .panicked →
    config.role = .transmitter ∧ Frame.panics config.payloadLength = true

/-- What is known of a session. -/
structure Outcome (config : SessionConfig) (resolver : Resolver) (w : World) : Prop where
  /-- However many turns its event loop may take, it ends for the first reason that there is, and
  its link is closed. -/
  settles : ∀ turns, ∃ record p w' failed, Settles turns config resolver w record p w' failed
    ((run turns config resolver).run w).1 ((run turns config resolver).run w).2
  /-- If nothing keeps it from its end it comes to one, and more turns change nothing about that. -/
  returns : CanEnd config w →
    ComesTo (fun turns => run turns config resolver) w fun ending _ => ending.IsReached
  /-- If its settings were checked and it is to stop, nothing keeps it from its end but that
  receiving fails for ever. -/
  checked : ∀ pageSize (c : Config), c.validate pageSize = .ok config → Stops w →
    (config.role = .receiver → w.host.script.Recovers) → CanEnd config w

theorem teardownOutcome_eq_ok_iff {failed : List LinkError} :
    LinkSocket.teardownOutcome failed = .ok () ↔ failed = [] := by
  match failed with
  | [] => exact ⟨fun _ => rfl, fun _ => rfl⟩
  | [_] => exact ⟨nofun, nofun⟩
  | _ :: _ :: _ => exact ⟨nofun, nofun⟩

theorem passed_of_mem {x : Stage × Verdict} (hx : x ∈ stages.map (·, .passed)) : x.2 = .passed := by
  obtain ⟨_, -, rfl⟩ := List.mem_map.mp hx
  rfl

theorem Accounts.ofPassed (stats : Reactor.Stats) (failed : List LinkError) :
    Accounts config stats (Stage.all.map (·, .passed)) failed
      ((Ending.finished stats).afterClosing failed) := by
  have hmem {stage : Stage} {verdict : Verdict} (hv : verdict ≠ .passed) :
      (stage, verdict) ∉ Stage.all.map (·, Verdict.passed) := fun h => hv (passed_of_mem h)
  rw [Ending.afterClosing]
  cases ho : LinkSocket.teardownOutcome failed with
  | ok =>
    have hnil := teardownOutcome_eq_ok_iff.mp ho
    exact {
      finished_iff := fun stats' =>
        ⟨fun h => ⟨rfl, hnil, (Ending.finished.inj h).symm⟩, fun h => by rw [h.2.2]⟩
      blame := fun _ _ h => absurd h (hmem nofun)
      teardown := fun _ _ h => nomatch ho.symm.trans h
      abandoned_iff := ⟨nofun, fun ⟨_, h⟩ => absurd h (hmem nofun)⟩
      panicked_iff := ⟨nofun, fun ⟨_, h⟩ => absurd h (hmem nofun)⟩ }
  | error e =>
    have hne : failed ≠ [] := fun hnil => nomatch ho.symm.trans (teardownOutcome_eq_ok_iff.mpr hnil)
    exact {
      finished_iff := fun stats' => ⟨nofun, fun h => absurd h.2.1 hne⟩
      blame := fun _ _ h => absurd h (hmem nofun)
      teardown := fun _ cause h => by rw [Except.error.inj (ho.symm.trans h)]
      abandoned_iff := ⟨nofun, fun ⟨_, h⟩ => absurd h (hmem nofun)⟩
      panicked_iff := ⟨nofun, fun ⟨_, h⟩ => absurd h (hmem nofun)⟩ }

/-- A stage that did not pass is the only such one on record. -/
theorem eq_of_mem_record {before : List Stage} {x y : Stage × Verdict}
    (hx : x ∈ before.map (·, .passed) ++ [y]) (hv : x.2 ≠ .passed) : x = y :=
  (List.mem_append.mp hx).elim (fun h => absurd (passed_of_mem h) hv) List.mem_singleton.mp

theorem Accounts.ofBroken (stats : Reactor.Stats) (failed : List LinkError) (before : List Stage)
    (stage : Stage) {verdict : Verdict} (hv : verdict ≠ .passed) :
    Accounts config stats (before.map (·, .passed) ++ [(stage, verdict)]) failed
      ((upshot config stats [(stage, verdict)]).afterClosing failed) := by
  have hlast : (stage, verdict) ∈ before.map (·, .passed) ++ [(stage, verdict)] :=
    List.mem_append_right _ (List.mem_singleton_self _)
  have hnot : before.map (·, .passed) ++ [(stage, verdict)] ≠ Stage.all.map (·, Verdict.passed) :=
    fun h => hv (passed_of_mem (h ▸ hlast))
  cases verdict with
  | passed => exact absurd rfl hv
  | failed e =>
    exact {
      finished_iff := fun stats' => ⟨nofun, fun h => absurd h.1 hnot⟩
      blame := fun stage' cause h => by
        cases eq_of_mem_record h nofun
        rfl
      teardown := fun h => absurd h hnot
      abandoned_iff := ⟨nofun, fun ⟨_, h⟩ => nomatch eq_of_mem_record h nofun⟩
      panicked_iff := ⟨nofun, fun ⟨_, h⟩ => nomatch eq_of_mem_record h nofun⟩ }
  | abandoned =>
    exact {
      finished_iff := fun stats' => ⟨nofun, fun h => absurd h.1 hnot⟩
      blame := fun _ _ h => nomatch eq_of_mem_record h nofun
      teardown := fun h => absurd h hnot
      abandoned_iff := ⟨fun _ => ⟨stage, hlast⟩, fun _ => rfl⟩
      panicked_iff := ⟨nofun, fun ⟨_, h⟩ => nomatch eq_of_mem_record h nofun⟩ }
  | panicked =>
    exact {
      finished_iff := fun stats' => ⟨nofun, fun h => absurd h.1 hnot⟩
      blame := fun _ _ h => nomatch eq_of_mem_record h nofun
      teardown := fun h => absurd h hnot
      abandoned_iff := ⟨nofun, fun ⟨_, h⟩ => nomatch eq_of_mem_record h nofun⟩
      panicked_iff := ⟨fun _ => ⟨stage, hlast⟩, fun _ => rfl⟩ }

/-- However many turns its event loop may take, a session ends for the first reason that there is,
and its link is closed. -/
theorem run_settled (turns : Nat) (config : SessionConfig) (resolver : Resolver) (w : World) :
    ∃ record p w' failed, Settles turns config resolver w record p w' failed
      ((run turns config resolver).run w).1 ((run turns config resolver).run w).2 := by
  obtain ⟨record, p, w', hc, hdrive⟩ : Follows turns config resolver Stage.all _ w _ :=
    drive_follows (.new config.link) w
  have hnew : ({ link := .new config.link } : Workpiece).Fits config := ⟨⟨rfl, nofun⟩, nofun⟩
  have hunclosed := (hc.fits hnew).lasts.unclosed
  obtain ⟨failed, hd, he⟩ := giveBack_run hunclosed (upshot config p.stats record) w'
  have hrun : (run turns config resolver).run w =
      (giveBack (upshot config p.stats record) p.link).run w' := by
    rw [run, run_bind, hdrive]
  have haccounts :
      Accounts config p.stats record failed ((run turns config resolver).run w).1 := by
    rw [hrun, he]
    obtain rfl | ⟨before, stage, after, verdict, -, hv, rfl⟩ := hc.record_eq
    · have hup : upshot config p.stats (Stage.all.map (·, .passed) ++ []) = .finished p.stats :=
        upshot_passed ..
      rw [List.append_nil] at hup
      rw [hup]
      exact .ofPassed p.stats failed
    · rw [upshot_passed]
      exact .ofBroken p.stats failed before stage hv
  refine ⟨record, p, w', failed, haccounts, hc, hc.record_eq, hunclosed,
    LinkSocket.close_disposes hunclosed w'.host, hrun ▸ hd, fun hpanicked => ?_⟩
  obtain ⟨stage, hstage⟩ := haccounts.panicked_iff.mp hpanicked
  exact hc.panicked hnew hstage

/-- Every session ends for the first reason that there is, with its link closed, and comes to its
end by itself if nothing keeps it from that. -/
theorem run_settles (config : SessionConfig) (resolver : Resolver) (w : World) :
    Outcome config resolver w where
  settles turns := run_settled turns config resolver w
  returns := run_comesTo
  checked _ _ := .of_validate

/-- These settings pass the check, and the session is to stop at a time or by a signal, but it never
comes to its end. -/
theorem run_endless : severedSettings.validate 4096 = .ok severedConfig ∧
    Stops (severedWorld (.stopAt 5)) ∧ ∀ turns,
      ((run turns severedConfig .system).run (severedWorld (.stopAt 5))).1 = .abandoned ∧
      ((run turns severedConfig .system).run (severedWorld .signals)).1 = .abandoned := by
  have hsettings : severedSettings.validate 4096 = .ok severedConfig := rfl
  have hsevered : Severed severedScript := ⟨fun _ => rfl, fun _ => rfl⟩
  have htime : ((start? severedConfig .system (severedWorld (.stopAt 5))).any isLured) = true := by
    decide +kernel
  have hsignal : ((start? severedConfig .system (severedWorld .signals)).any isLured) = true := by
    decide +kernel
  obtain ⟨c, hc, hl⟩ := (Option.any_eq_true ..).mp htime
  obtain ⟨c', hc', hl'⟩ := (Option.any_eq_true ..).mp hsignal
  exact ⟨hsettings, .inr ⟨5, rfl⟩, fun turns =>
    ⟨run_abandoned hsevered rfl hc hl turns, run_abandoned hsevered rfl hc' hl' turns⟩⟩

/-- The rings of a link that was never opened cannot be closed, and yet the session fails for the
first reason. -/
example : ((run 0 {
      role := .transmitter, interface := "eth0", kind := .ieee8023, linkSap := 0x88B5,
      txDelay := 10, ringFrames := some 8, payloadLength := 10 }
    (.failing (.interfaceNotFound "eth0"))).run (.begin (ofScript {}) .signals)).1 =
      .failed ⟨some "Failed to open link socket on eth0", .interfaceNotFound "eth0"⟩ := rfl

end PacketLink.Session
