import Mathlib.Data.List.Flatten
import PacketLink.Proofs.Session.World
import PacketLink.Proofs.Traffic.Progress
import PacketLink.Proofs.Traffic.Steps

/-!
# What keeps a worker busy

* `chores`: the frames that wait for a worker, the frames and the failures of receiving that are
  still to come. Receiving must not fail for ever (`Host.Script.Recovers`).
* `Eases`: what an answer is worth. Whoever wants to go on at once has fewer chores left than
  before, whoever pauses does so for a while, and nobody has more.
* `Worker.onReady_eases`: so every turn that does not lose the channel.
* `lookAt_chores_le`: a look at a descriptor adds no chores, whatever arrives with it.
-/

namespace PacketLink

open Host SlotMemory Session

/-! ## What is still to come -/

namespace Host

variable {h h' : Host}

/-- Receiving does not fail for ever, unless it is for want of frames. -/
def Script.Recovers (script : Script) : Prop :=
  0 < script.lasting .receive → (⟨(script.lasting .receive).toNat⟩ : Errno) = .wouldBlock

/-- How many calls that receive the script has something left for. -/
def receiptsLeft (h : Host) : Nat := (h.script.codes .receive).length - h.countOf .receive

/-- How many frames are still to arrive. -/
def arrivalsLeft (h : Host) : Nat := (h.script.arrivals.drop (h.countOf .poll)).flatten.length

/-- The failures of receiving and the frames that are still to come. -/
def prospect (h : Host) : Nat := h.receiptsLeft + h.arrivalsLeft

theorem Before.prospect_le (hb : Before h h') : h'.prospect ≤ h.prospect := by
  have hreceive := hb.countOf_le .receive
  have harrivals : h'.arrivalsLeft ≤ h.arrivalsLeft := by
    rw [arrivalsLeft, arrivalsLeft, hb.script]
    exact (List.drop_sublist_drop_left _ (hb.countOf_le .poll)).flatten.length_le
  rw [prospect, prospect, receiptsLeft, receiptsLeft, hb.script]
  omega

/-- A call that the script mentions is one less. -/
theorem prospect_enter (hn : h.countOf .receive < (h.script.codes .receive).length) :
    ((enter .receive).run h).2.prospect < h.prospect := by
  have hcount : ((enter .receive).run h).2.countOf .receive = h.countOf .receive + 1 :=
    countOf_enter ..
  have hpoll : ((enter .receive).run h).2.countOf .poll = h.countOf .poll := countOf_enter ..
  have hscript : ((enter .receive).run h).2.script = h.script := rfl
  rw [prospect, prospect, receiptsLeft, receiptsLeft, arrivalsLeft, arrivalsLeft, hscript, hcount,
    hpoll]
  omega

/-- The frames at a socket, and what is still to come. -/
def backlog (h : Host) (s : SocketId) : Nat := (h.socketOf s).queue.length + h.prospect

/-- Receiving shortens the backlog, unless there is nothing to receive. -/
theorem receive_backlog (hs : h.script.Recovers) (s : SocketId) (length : Nat) :
    (((receive s length).run h).1 = .error .wouldBlock ∧
      ((receive s length).run h).2.backlog s ≤ h.backlog s) ∨
    ((receive s length).run h).2.backlog s < h.backlog s := by
  have hle := (receive_advances s length h).prospect_le
  by_cases hcode : 0 < h.script.failure .receive (h.countOf .receive)
  · have hfail : 0 < ((enter .receive).run h).1 := hcode
    rw [receive, attempt, run_bind, if_pos hfail] at hle ⊢
    by_cases hn : h.countOf .receive < (h.script.codes .receive).length
    · exact .inr (Nat.add_lt_add_left (prospect_enter hn) _)
    · -- Whatever fails for good fails for want of frames.
      have hlast : ((enter .receive).run h).1 = h.script.lasting .receive := by
        show h.script.failure .receive (h.countOf .receive) = _
        rw [Script.failure, List.getD_eq_getElem?_getD, List.getElem?_eq_none (Nat.not_lt.mp hn),
          Option.getD_none]
      rw [hlast] at hfail
      refine .inl ⟨?_, Nat.add_le_add_left hle _⟩
      show Except.error _ = _
      rw [hlast, hs hfail]
  · have hworks := Int.not_lt.mp hcode
    cases hq : (h.socketOf s).queue with
    | nil =>
      have hrun : (receive s length).run h = (.error .wouldBlock, _) :=
        attempt_run (k := ((enter .receive).run h).2) hworks (by
          rw [run_bind, run_get, show (((enter .receive).run h).2.socketOf s).queue = [] from hq]
          rfl)
      rw [hrun] at hle ⊢
      exact .inl ⟨rfl, Nat.add_le_add_left hle _⟩
    | cons frame rest =>
      obtain ⟨h', hrun, hl⟩ := Next.receive_run ⟨hworks, hq⟩ length
      rw [hrun] at hle ⊢
      dsimp only at hle
      simp only [backlog, hl.queue, hq, List.length_cons]
      omega

end Host

/-! ## Slots handed over -/

/-- Fewer are counted if one of them no longer is and none is new. -/
theorem countP_lt_countP {α : Type} {p q : α → Bool} {l : List α} {a : α} (ha : a ∈ l)
    (hp : p a = true) (hq : q a = false) (hqp : ∀ b, q b = true → p b = true) :
    l.countP q < l.countP p := by
  obtain ⟨front, back, rfl⟩ := List.append_of_mem ha
  have hfront : front.countP q ≤ front.countP p := List.countP_mono_left fun b _ => hqp b
  have hback : back.countP q ≤ back.countP p := List.countP_mono_left fun b _ => hqp b
  simp only [List.countP_append, List.countP_cons, hp, hq, if_true, Bool.false_eq_true, if_false]
  omega

namespace SlotMemory

variable {m : SlotMemory} {i : Nat}

/-- There is no status word behind the last slot. -/
theorem lt_count_of_isUser (hu : isUser (m.status i) = true) : i < m.count := by
  refine Nat.lt_of_not_le fun hle => ?_
  have hslot : m.slot i = [] := by
    rw [slot, Array.getD_eq_getD_getElem?, Array.getElem?_eq_none hle]
    rfl
  rw [status, word, SlotMemory.read, hslot] at hu
  exact absurd hu (by decide)

/-- A slot that is handed back no longer counts as handed over. -/
theorem handedOver_setStatus_free (hu : isUser (m.status i) = true) :
    handedOver (m.setStatus i free) < handedOver m := by
  unfold handedOver
  rw [count_setStatus]
  refine countP_lt_countP (List.mem_range.mpr (lt_count_of_isUser hu)) hu ?_ fun j hj => ?_
  · rw [status_setStatus_free]
    rfl
  · by_cases hij : i = j
    · subst hij
      exact hu
    · rwa [status_setStatus_of_ne m hij] at hj

end SlotMemory

/-! ## Taking a frame -/

/-- What taking a frame is worth: there is less to do, or there is nothing to do now, or the channel
is lost. -/
def Spent (taken : Except LinkError (Option Frame)) (before after : Nat) : Prop :=
  after < before ∨ (taken = .ok none ∧ after ≤ before) ∨ ∃ e, taken = .error e ∧ e.isResource = true

namespace Receiver

theorem takeFromSocket_spent {h : Host} (hs : h.script.Recovers) (s : PacketSocket)
    (kind : FrameKind) (buffer : Bytes) :
    Spent ((takeFromSocket s kind buffer).run h).1.1 (h.backlog s.id)
      (((takeFromSocket s kind buffer).run h).2.backlog s.id) := by
  have hb := receive_backlog hs s.id buffer.length
  obtain ⟨⟨outcome, h₁⟩, hrun⟩ : ∃ t, (receive s.id buffer.length).run h = t := ⟨_, rfl⟩
  rw [hrun] at hb
  cases outcome with
  | error e =>
    have htake : (takeFromSocket s kind buffer).run h =
        ((if e = .wouldBlock then .ok none else .error (.transport "recv" e), buffer), h₁) := by
      rw [takeFromSocket, run_bind, PacketSocket.receive, run_bind, hrun]
      rfl
    rw [htake]
    obtain ⟨he, hle⟩ | hlt := hb
    · exact .inr (.inl ⟨if_pos (Except.error.inj he), hle⟩)
    · exact .inl hlt
  | ok data =>
    obtain ⟨data, wireLength⟩ := data
    obtain ⟨hok, -⟩ | hlt := hb
    · cases hok
    · left
      have hreceive : (s.receive buffer).run h = ((.ok ⟨min wireLength buffer.length, wireLength⟩,
          overlay buffer 0 data), h₁) := by
        rw [PacketSocket.receive, run_bind, hrun]
        rfl
      obtain ⟨log, hdecode⟩ := decodeCapture_run kind
        ((overlay buffer 0 data).take (min wireLength buffer.length)) wireLength h₁
      rw [takeFromSocket, run_bind, hreceive]
      simp only [run_bind, hdecode]
      exact hlt

theorem takeFromRing_spent (r : Ring) (kind : FrameKind) (h : Host) :
    Spent ((takeFromRing r kind).run h).1.1 (handedOver (r.memory h) + h.prospect)
      (handedOver (((takeFromRing r kind).run h).1.2.memory ((takeFromRing r kind).run h).2) +
        ((takeFromRing r kind).run h).2.prospect) := by
  have hleft : ((takeFromRing r kind).run h).2.prospect ≤ h.prospect :=
    (takeFromRing_steps (P := fun act => Advances act) advances_steps kind h).prospect_le
  cases hd : r.direction with
  | send =>
    have htake : (takeFromRing r kind).run h =
        ((.error (.ringProtocol "acquire_for_read on a TX ring"), r), h) := by
      rw [takeFromRing, run_bind, Ring.acquireRead_refused hd]
      rfl
    rw [htake]
    exact .inr (.inr ⟨_, rfl, rfl⟩)
  | receive =>
    by_cases hu : isUser ((r.memory h).status r.cursor) = true
    · obtain ⟨h', htake, hrings⟩ := takeFromRing_user hd hu kind
      rw [htake] at hleft ⊢
      have hmemory : (r.handedBack (r.memory h)).memory h' = (r.memory h).setStatus r.cursor free :=
        memory_handedBack (lt_count_of_isUser hu) hrings
      left
      dsimp only at hleft ⊢
      rw [hmemory]
      exact Nat.add_lt_add_of_lt_of_le (handedOver_setStatus_free hu) hleft
    · rw [takeFromRing_free hd hu]
      exact .inr (.inl ⟨rfl, Nat.le_refl _⟩)

end Receiver

/-! ## Turns -/

/-- The frames that wait for a worker, and what is still to come. -/
def chores (h : Host) (b : Worker) : Nat := waiting h b + h.prospect

/-- What waits is in the sockets and the mappings. -/
theorem waiting_congr {h h' : Host} (hs : h'.sockets = h.sockets) (hm : h'.mappings = h.mappings)
    (b : Worker) : waiting h' b = waiting h b := by
  cases b with
  | transmitter x => rfl
  | receiver x =>
    cases hc : x.channel with
    | socket s => simp only [waiting, hc, Host.socketOf, hs]
    | ring r =>
      simp only [waiting, hc]
      exact congrArg handedOver (memoryOf_congr hm r.mapping)

theorem Receiver.take_spent {h : Host} (hr : h.script.Recovers) (x : Receiver) :
    Spent (x.take.run h).1.1 (chores h (.receiver x))
      (chores (x.take.run h).2 (.receiver (x.take.run h).1.2)) := by
  cases hc : x.channel with
  | socket s =>
    have hs := takeFromSocket_spent hr s x.kind x.buffer
    obtain ⟨⟨⟨taken, buffer⟩, h'⟩, htake⟩ :
      ∃ t, (takeFromSocket s x.kind x.buffer).run h = t := ⟨_, rfl⟩
    rw [htake] at hs
    rw [take_socket_run hc htake]
    simpa only [chores, waiting, hc, backlog] using hs
  | ring r =>
    have hs := takeFromRing_spent r x.kind h
    obtain ⟨⟨⟨taken, r'⟩, h'⟩, htake⟩ : ∃ t, (takeFromRing r x.kind).run h = t := ⟨_, rfl⟩
    rw [htake] at hs
    rw [take_ring_run hc htake]
    simpa only [chores, waiting, hc] using hs

/-- What an answer is worth, with the chores before and after the turn. -/
def Eases (before after : Nat) : Dispatch → Prop
  | .idle => after ≤ before
  | .handled => after < before
  | .pause milliseconds => 0 < milliseconds ∧ after ≤ before

theorem Eases.mono {before after after' : Nat} {dispatch : Dispatch}
    (h : Eases before after dispatch) (hle : after' ≤ after) : Eases before after' dispatch := by
  cases dispatch with
  | idle => exact Nat.le_trans hle h
  | handled => exact Nat.lt_of_le_of_lt hle h
  | pause milliseconds => exact ⟨h.1, Nat.le_trans hle h.2⟩

/-- What a watcher does after a turn. It does not go on if the channel is lost. -/
def Worker.sequel (b : Worker) : Except LinkError Dispatch → Option Dispatch
  | .ok dispatch => some dispatch
  | .error e => if e.isResource then none else some b.afterError

/-- A transmitter pauses between frames, and for a receiver receiving does not fail for ever. -/
def Worker.Paces (script : Script) : Worker → Prop
  | .receiver _ => script.Recovers
  | .transmitter x => 0 < x.plan.delay

theorem Receiver.onReady_eases {x x' : Receiver} {answer : Except LinkError Dispatch} {h h' : Host}
    (hr : h.script.Recovers) (hrun : x.onReady.run h = ((answer, x'), h')) {dispatch : Dispatch}
    (hd : (Worker.receiver x').sequel answer = some dispatch) :
    Eases (chores h (.receiver x)) (chores h' (.receiver x')) dispatch := by
  have hs := x.take_spent hr
  obtain ⟨⟨⟨taken, x₁⟩, h₁⟩, htake⟩ : ∃ t, x.take.run h = t := ⟨_, rfl⟩
  rw [htake] at hs
  rw [onReady, run_bind, htake] at hrun
  obtain e | _ | f := taken
  · cases hrun
    cases he : e.isResource with
    | true => simp [Worker.sequel, he] at hd
    | false =>
      simp only [Worker.sequel, he, Bool.false_eq_true, if_false] at hd
      cases hd
      obtain hlt | ⟨hok, -⟩ | ⟨e', he', hlost⟩ := hs
      · exact hlt
      · cases hok
      · cases he'
        rw [he] at hlost
        cases hlost
  · cases hrun
    cases hd
    obtain hlt | ⟨-, hle⟩ | ⟨e', he', -⟩ := hs
    · exact Nat.le_of_lt hlt
    · exact hle
    · cases he'
  · cases hrun
    cases hd
    obtain hlt | ⟨hok, -⟩ | ⟨e', he', -⟩ := hs
    · exact hlt
    · cases hok
    · cases he'

/-- A transmitter keeps its plan. It finds nothing to do, or pauses as planned. -/
theorem Transmitter.onReady_gives (x : Transmitter) :
    Gives (fun a => a.2.plan = x.plan ∧
      ∀ dispatch, a.1 = .ok dispatch → dispatch = .idle ∨ dispatch = .pause x.plan.delay)
      x.onReady := by
  have hsend (bytes : Bytes) : Gives (fun a => a.2.plan = x.plan) (x.send bytes) := by
    unfold send
    cases x.channel with
    | socket s => exact .then fun _ => .pure rfl
    | ring r => exact .then fun _ => .pure rfl
  unfold onReady
  cases x.plan.frame with
  | error e => exact .pure ⟨rfl, nofun⟩
  | ok f =>
    refine (hsend f.encode).bind fun ⟨outcome, x'⟩ hplan => ?_
    match outcome with
    | .error e => exact .pure ⟨hplan, nofun⟩
    | .ok false => exact .pure ⟨hplan, fun _ he => .inl (Except.ok.inj he).symm⟩
    | .ok true =>
      refine .pure ⟨hplan, fun _ he => .inr ?_⟩
      rw [← Except.ok.inj he, hplan]

/-- Whoever goes on after a turn has less to do, or does it later. -/
theorem Worker.onReady_eases {b b' : Worker} {answer : Except LinkError Dispatch} {h h' : Host}
    (hp : b.Paces h.script) (hrun : b.onReady.run h = ((answer, b'), h')) :
    b'.Paces h.script ∧ ∀ dispatch, b'.sequel answer = some dispatch →
      Eases (chores h b) (chores h' b') dispatch := by
  cases b with
  | receiver x =>
    obtain ⟨⟨⟨answer, x'⟩, h₁⟩, hx⟩ : ∃ t, x.onReady.run h = t := ⟨_, rfl⟩
    rw [onReady, run_bind, hx] at hrun
    cases hrun
    exact ⟨hp, fun _ => Receiver.onReady_eases hp hx⟩
  | transmitter x =>
    have hle := (x.onReady_steps (P := fun act => Advances act) advances_steps h).prospect_le
    obtain ⟨hplan, hanswer⟩ := x.onReady_gives h
    obtain ⟨⟨⟨answer, x'⟩, h₁⟩, hx⟩ : ∃ t, x.onReady.run h = t := ⟨_, rfl⟩
    rw [hx] at hle hplan hanswer
    rw [onReady, run_bind, hx] at hrun
    cases hrun
    have hchores : chores h₁ (.transmitter x') ≤ chores h (.transmitter x) :=
      Nat.add_le_add_left hle 0
    have hpaces : 0 < x.plan.delay := hp
    have hpaces' : 0 < x'.plan.delay := by rwa [hplan]
    refine ⟨hpaces', fun dispatch hd => ?_⟩
    have hcases : dispatch = .idle ∨ dispatch = .pause x.plan.delay := by
      cases answer with
      | ok d =>
        cases hd
        exact hanswer _ rfl
      | error e =>
        right
        dsimp only at hplan
        have hd' : (if e.isResource then none else some (.pause x'.plan.delay)) =
            some dispatch := hd
        split at hd'
        · cases hd'
        · rw [← Option.some.inj hd', hplan]
    obtain rfl | rfl := hcases
    · exact hchores
    · exact ⟨hpaces, hchores⟩

/-- A computation that leaves the sockets and the mappings alone adds no chores. -/
theorem chores_le_of_keeps {α : Type} {act : Sys α} (ha : Advances act)
    (hs : Keeps Host.sockets act) (hm : Keeps Host.mappings act) (h : Host) (b : Worker) :
    chores (act.run h).2 b ≤ chores h b :=
  Nat.add_le_add (Nat.le_of_eq (waiting_congr (hs h) (hm h) b)) (ha h).prospect_le

/-! ## Frames that arrive -/

/-- The frames that arrive with the next look at a socket. -/
def nextArrivals (h : Host) : List Bytes := h.script.arrivals.getD (h.countOf .poll) []

theorem length_flatten_drop {α : Type} (l : List (List α)) (n : Nat) :
    (l.drop n).flatten.length = (l.getD n []).length + (l.drop (n + 1)).flatten.length := by
  by_cases hn : n < l.length
  · rw [List.drop_eq_getElem_cons hn, List.flatten_cons, List.length_append,
      List.getD_eq_getElem?_getD, List.getElem?_eq_getElem hn, Option.getD_some]
  · have hle := Nat.not_lt.mp hn
    rw [List.drop_eq_nil_of_le hle, List.drop_eq_nil_of_le (Nat.le_succ_of_le hle),
      List.getD_eq_getElem?_getD, List.getElem?_eq_none hle]
    rfl

/-- After a look the frames that arrived with it are no longer to come. -/
theorem prospect_enter_poll (h : Host) :
    ((enter .poll).run h).2.prospect + (nextArrivals h).length = h.prospect := by
  have hpoll : ((enter .poll).run h).2.countOf .poll = h.countOf .poll + 1 := countOf_enter ..
  have hreceive : ((enter .poll).run h).2.countOf .receive = h.countOf .receive :=
    countOf_enter ..
  have hscript : ((enter .poll).run h).2.script = h.script := rfl
  have hdrop := length_flatten_drop h.script.arrivals (h.countOf .poll)
  rw [prospect, prospect, receiptsLeft, receiptsLeft, arrivalsLeft, arrivalsLeft, nextArrivals,
    hscript, hpoll, hreceive]
  omega

theorem arrive_nextArrivals (s : SocketId) : Keeps nextArrivals (arrive s) := by
  refine Keeps.get.bind fun h => ?_
  split
  · exact .pure _
  · exact .modify fun _ => rfl

/-- No more wait than did, and those that have arrived. -/
theorem waiting_arrive_le (s : SocketId) (h : Host) (b : Worker) :
    waiting ((arrive s).run h).2 b ≤ waiting h b + (nextArrivals h).length := by
  rw [arrive, run_bind, run_get]
  cases h.activeMapping? s .receive with
  | some id => exact Nat.le_add_right ..
  | none =>
    cases b with
    | transmitter x => exact Nat.zero_le _
    | receiver x =>
      cases hc : x.channel with
      | ring r =>
        simp only [waiting, hc]
        exact Nat.le_add_right ..
      | socket t =>
        simp only [waiting, hc, Host.socketOf, updateQueue, run_modify, nextArrivals,
          Array.getD_eq_getD_getElem?, Array.getElem?_modify]
        split
        · cases h.sockets[t.id.number]? with
          | none => exact Nat.zero_le _
          | some k => exact Nat.le_of_eq List.length_append
        · exact Nat.le_add_right ..

theorem lookAt_chores_le (d : Nat) (readiness : Readiness) (h : Host) (b : Worker) :
    chores ((lookAt d readiness).run h).2 b ≤ chores h b := by
  cases readiness with
  | writable =>
    have hrun : ((lookAt d .writable).run h).2 = ((enter .poll).run h).2 := probe_run_snd ..
    rw [hrun]
    exact chores_le_of_keeps (enter_advances .poll) (fun _ => rfl) (fun _ => rfl) h b
  | readable =>
    -- What arrives is no longer to come, so it adds nothing.
    have hrun : ((lookAt d .readable).run h).2 =
        ((enter .poll).run ((arrive ⟨d⟩).run h).2).2 := probe_run_snd ..
    have hwaiting := waiting_arrive_le ⟨d⟩ h b
    have hsame : waiting ((enter .poll).run ((arrive ⟨d⟩).run h).2).2 b =
        waiting ((arrive ⟨d⟩).run h).2 b := waiting_congr rfl rfl b
    have hprospect := prospect_enter_poll ((arrive ⟨d⟩).run h).2
    have hle := (arrive_advances ⟨d⟩ h).prospect_le
    rw [arrive_nextArrivals] at hprospect
    rw [hrun, chores, chores, hsame]
    omega

end PacketLink
