import PacketLink.Proofs.Host.Ending
import PacketLink.Proofs.Host.Rings

/-!
# What the kernel does not take back

* `Host.Before h h'`: the second host can come after the first one. It behaves as that does, no call
  has become uncounted, and a signal that has arrived is still there.
* `Advances act`: whatever the host, the one that `act` leaves comes after it. One lemma for each
  call that a worker makes.
-/

namespace PacketLink.Host

variable {α β : Type} {h h' h'' : Host}

/-- The second host can come after the first one. -/
structure Before (h h' : Host) : Prop where
  script : h'.script = h.script
  countOf_le : ∀ c, h.countOf c ≤ h'.countOf c
  signal : h.signal.isSome = true → h'.signal.isSome = true

theorem Before.refl (h : Host) : Before h h := ⟨rfl, fun _ => Nat.le_refl _, id⟩

theorem Before.trans (hb : Before h h') (hb' : Before h' h'') : Before h h'' :=
  ⟨hb'.script.trans hb.script, fun c => Nat.le_trans (hb.countOf_le c) (hb'.countOf_le c),
    hb'.signal ∘ hb.signal⟩

/-- Whatever the host, the one that `act` leaves comes after it. -/
def Advances (act : Sys α) : Prop := ∀ h, Before h (act.run h).2

namespace Advances

theorem pure (a : α) : Advances (pure a : Sys α) := fun h => .refl h

theorem get : Advances (get : Sys Host) := fun h => .refl h

theorem bind {act : Sys α} {next : α → Sys β} (ha : Advances act) (hn : ∀ a, Advances (next a)) :
    Advances (act >>= next) := fun h => (ha h).trans (hn _ _)

/-- A change that the counters, the script and the signal do not notice. -/
theorem modify {f : Host → Host}
    (hf : ∀ h, (f h).script = h.script ∧ (f h).counts = h.counts ∧ (f h).signal = h.signal) :
    Advances (modify f : Sys Unit) := by
  intro h
  obtain ⟨hscript, hcounts, hsignal⟩ := hf h
  refine ⟨hscript, fun c => ?_, fun hs => ?_⟩
  · exact Nat.le_of_eq (congrArg (·.getD c.place 0) hcounts.symm)
  · exact (congrArg Option.isSome hsignal).trans hs

end Advances

theorem enter_advances (c : Call) : Advances (enter c) := by
  intro h
  refine ⟨rfl, fun c' => ?_, fun hs => ?_⟩
  · rw [countOf_enter]
    exact Nat.le_add_right ..
  · dsimp only [StateT.run, enter]
    split
    · split
      · rfl
      · exact hs
    · exact hs

theorem record_advances (e : Event) : Advances (record e) := .modify fun _ => ⟨rfl, rfl, rfl⟩

theorem report_advances (e : Log.Entry) : Advances (report e) := .modify fun _ => ⟨rfl, rfl, rfl⟩

theorem reportAll_advances (es : List Log.Entry) : Advances (reportAll es) :=
  .modify fun _ => ⟨rfl, rfl, rfl⟩

theorem updateQueue_advances (s : SocketId) (change : List Bytes → List Bytes) :
    Advances (updateQueue s change) := .modify fun _ => ⟨rfl, rfl, rfl⟩

theorem updateMapping_advances (id : MappingId) (change : Mapping → Mapping) :
    Advances (updateMapping id change) := .modify fun _ => ⟨rfl, rfl, rfl⟩

theorem attempt_advances {c : Call} {event : Outcome α → Event} {effect : Sys (Outcome α)}
    (hx : Advances effect) : Advances (attempt c event effect) := by
  have hlast (outcome : Outcome α) : Advances (do record (event outcome); Pure.pure outcome) :=
    (record_advances _).bind fun _ => .pure _
  refine (enter_advances c).bind fun code => ?_
  split
  · exact (Advances.pure _).bind hlast
  · exact hx.bind hlast

theorem sendTo_advances (s : SocketId) (frame : Bytes) (address : LinkAddress) :
    Advances (sendTo s frame address) :=
  Advances.get.bind fun _ => attempt_advances (Advances.get.bind fun _ => .pure _)

theorem receive_advances (s : SocketId) (length : Nat) : Advances (receive s length) := by
  refine attempt_advances (Advances.get.bind fun h => ?_)
  split
  · exact .pure _
  · exact (updateQueue_advances _ _).bind fun _ => .pure _

theorem readStatistics_advances (s : SocketId) : Advances (readStatistics s) :=
  attempt_advances (Advances.get.bind fun _ => .pure _)

theorem transmitFrom_advances (s : SocketId) (id : MappingId) (n : Nat) :
    Advances (transmitFrom s id n) := by
  induction n with
  | zero => exact .pure _
  | succ n ih =>
    refine Advances.get.bind fun h => ?_
    split
    · exact .pure _
    · dsimp only
      split
      · refine (record_advances _).bind fun _ => ?_
        refine Advances.bind (.modify fun _ => ⟨rfl, rfl, rfl⟩) fun _ => ?_
        refine (updateMapping_advances _ _).bind fun _ => ?_
        split
        · exact .pure _
        · exact ih
      · exact .pure _

theorem flush_advances (s : SocketId) : Advances (flush s) := by
  refine (attempt_advances (.pure _)).bind fun outcome => ?_
  cases outcome with
  | error e => exact .pure _
  | ok =>
    refine Advances.get.bind fun h => ?_
    dsimp only
    split
    · exact (transmitFrom_advances _ _ _).bind fun _ => .pure _
    · exact .pure _

/-- Looking at a descriptor counts as a call, whatever comes of it. -/
theorem probe_advances (level : Host → Bool) : Advances (probe level) := by
  intro h
  rw [probe_run_snd]
  exact enter_advances .poll h

end PacketLink.Host
