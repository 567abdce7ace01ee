import PacketLink.Proofs.Reactor.Calls
import PacketLink.Proofs.Reactor.Turns
import PacketLink.Session.World

/-!
# Plans that ask for too much

A transmitter whose plan has a payload that its kind does not carry loses the frame of each turn.

* `TransmitPlan.excess`: the complaint about such a plan.
* `Contained`: the turn fails with that complaint, and nothing else comes of it: the transmitter and
  the host stay as they are, the watcher stays and pauses.
* `contained_iff`: this is so for the lengths that can be held in memory. From `Frame.addressLimit`
  on there is no complaint about the length: the program panics.
-/

namespace PacketLink

open Host Reactor Session

/-- The complaint about a plan that has more bytes than its kind carries. -/
def TransmitPlan.excess (plan : TransmitPlan) : FrameError :=
  .payloadTooLarge plan.kind plan.kind.maxPayload plan.payloadLength

/-- The plan has more bytes than its kind carries. -/
def TransmitPlan.IsOversized (plan : TransmitPlan) : Prop :=
  plan.kind.maxPayload < plan.payloadLength

instance (plan : TransmitPlan) : Decidable plan.IsOversized :=
  inferInstanceAs (Decidable (plan.kind.maxPayload < plan.payloadLength))

theorem TransmitPlan.panics_eq_false_iff {plan : TransmitPlan} :
    plan.panics = false ↔ plan.payloadLength < Frame.addressLimit := by
  rw [panics, Frame.panics, decide_eq_false_iff_not, Nat.not_le]

/-- A payload that the kind does not carry is refused for its length, if there is memory for it. -/
theorem TransmitPlan.frame_eq_excess {plan : TransmitPlan} (ho : plan.IsOversized) :
    plan.frame = .error plan.excess := if_pos ho

theorem TransmitPlan.frame?_eq_excess_iff {plan : TransmitPlan} (ho : plan.IsOversized) :
    plan.frame? = some (.error plan.excess) ↔ plan.payloadLength < Frame.addressLimit := by
  rw [frame?, frame_eq_excess ho, ← panics_eq_false_iff]
  cases plan.panics <;> simp

namespace Transmitter

variable {x : Transmitter}

/-- A plan that asks for too much costs the frame of each turn, and nothing beside it. -/
structure Contained (x : Transmitter) : Prop where
  /-- The frame is refused with the limit of its kind and the length of the plan, and the program
  does not panic. -/
  frame : x.plan.frame? = some (.error x.plan.excess)
  /-- A turn fails with it, and changes nothing on the transmitter, its channel or the host. -/
  turn : ∃ act, x.onReady? = some act ∧ ∀ h, act.run h = ((.error (.frame x.plan.excess), x), h)
  /-- The descriptor and the ring are not lost by that. -/
  isResource : (LinkError.frame x.plan.excess).isResource = false
  /-- In a session the watcher stays and pauses; beside the counters there is one log entry. -/
  served : ∀ (w : Watcher Worker) (stats : Stats) (v : World), w.worker = .transmitter x →
    (serve surroundings stats (w, some (.ok ()))).run v =
      ((({ w with armed := false, resumeAt := some (v.now + x.plan.delay) }, none),
        { stats with
          dispatched := stats.dispatched + 1, frameErrors := stats.frameErrors + 1 }),
        { v with
          host := ((report (frameFailed w (.frame x.plan.excess))).run v.host).2 })
  /-- However long the loop runs with such transmitters, all turns fail so. -/
  calls : ∀ fuel (ws : List (Watcher Worker)) (v : World),
    (∀ w ∈ ws, w.worker = .transmitter x) →
      ∀ c ∈ ((Reactor.run surroundings.logged fuel ws).run (v, [])).2.2,
        c = ⟨.transmitter x, .error (.frame x.plan.excess), .transmitter x⟩

/-- A turn of which the frame cannot be made does nothing. -/
theorem onReady_frame_error {e : FrameError} (hf : x.plan.frame = .error e) (h : Host) :
    x.onReady.run h = ((.error (.frame e), x), h) := by
  unfold onReady
  simp only [hf, run_pure]

theorem surroundings_onReady_frame_error {e : FrameError} (hf : x.plan.frame = .error e)
    (v : World) : (surroundings.onReady (.transmitter x)).run v =
      ((.error (.frame e), .transmitter x), v) := by
  have hturn : (Worker.transmitter x).onReady v.host =
      ((.error (.frame e), .transmitter x), v.host) := by
    have hrun := onReady_frame_error hf v.host
    show ((Worker.transmitter x).onReady).run v.host = _
    simp only [Worker.onReady, run_bind, hrun, run_pure]
  show (Session.onHost (Worker.transmitter x).onReady) v = _
  rw [Session.onHost, hturn]

/-- In a session it costs a log entry and a pause. -/
theorem served_frame_error {e : FrameError} (hf : x.plan.frame = .error e) {w : Watcher Worker}
    (hw : w.worker = .transmitter x) (stats : Stats) (v : World) :
    (serve surroundings stats (w, some (.ok ()))).run v =
      ((({ w with armed := false, resumeAt := some (v.now + x.plan.delay) }, none),
        { stats with
          dispatched := stats.dispatched + 1, frameErrors := stats.frameErrors + 1 }),
        { v with host := ((report (frameFailed w (.frame e))).run v.host).2 }) := by
  have hturn := surroundings_onReady_frame_error hf v
  rw [← hw] at hturn
  refine serve_run_error stats hturn rfl ?_
  have hpause : surroundings.afterError w.worker = .pause x.plan.delay := by
    rw [hw]
    rfl
  rw [hpause]
  rfl

theorem upholds_frame_error {e : FrameError} (hf : x.plan.frame = .error e) :
    Upholds surroundings (· = .transmitter x)
      (· = ⟨.transmitter x, .error (.frame e), .transmitter x⟩) := by
  rintro b v answer left v' rfl hrun
  rw [surroundings_onReady_frame_error hf v] at hrun
  cases hrun
  exact ⟨rfl, rfl⟩

/-- A plan that asks for too much is contained exactly if its payload can be held in memory. That
there is memory for every such payload is taken for granted: what an allocation of fewer bytes does
where memory runs out is not part of the model. -/
theorem contained_iff (ho : x.plan.IsOversized) :
    Contained x ↔ x.plan.payloadLength < Frame.addressLimit := by
  rw [← TransmitPlan.frame?_eq_excess_iff ho]
  constructor
  · exact Contained.frame
  · intro hframe
    have hpanics := TransmitPlan.panics_eq_false_iff.mpr
      ((TransmitPlan.frame?_eq_excess_iff ho).mp hframe)
    have hf := TransmitPlan.frame_eq_excess ho
    exact ⟨hframe, ⟨x.onReady, by simp [onReady?, hpanics], onReady_frame_error hf⟩, rfl,
      fun w stats v hw => served_frame_error hf hw stats v,
      fun fuel ws v hw => run_upholds (upholds_frame_error hf) fuel hw v⟩

/-- A plan for a socket. -/
def planned (n : Nat) : Transmitter where
  channel := .socket ⟨⟨0⟩⟩
  plan := {
    kind := .ieee8023, source := .broadcast, sap := 0x88b5, interfaceIndex := 3,
    payloadLength := n, delay := 5 }

/-- One byte too many is contained. -/
theorem contained_iff_next : (planned 1501).plan.IsOversized ∧ Contained (planned 1501) :=
  ⟨by decide, (contained_iff (by decide)).mpr (by decide)⟩

/-- The first length that cannot be held in memory is a machine word. With it there is no frame, and
no turn comes to an end. -/
theorem not_contained_unallocatable : Frame.addressLimit < 0x10000000000000000 ∧
    (planned Frame.addressLimit).plan.IsOversized ∧
      (planned Frame.addressLimit).plan.frame? = none ∧
        (planned Frame.addressLimit).onReady?.isNone = true ∧
          ¬ Contained (planned Frame.addressLimit) := by
  refine ⟨by decide, by decide, rfl, rfl, fun hc => ?_⟩
  have hframe := hc.frame
  cases hframe

end Transmitter

end PacketLink
