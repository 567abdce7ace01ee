import PacketLink.Host.Calls
import PacketLink.Proofs.Host.Rings
import PacketLink.Proofs.Host.Standing

/-!
# What a program holds of the kernel

* `Holds held h`: of all sockets that were made, those in `held` are open, each with the standing
  given, and the others are closed.
* `Trades held act held'`: `act` makes `held'` of `held`, where `held'` may depend on the answer.
  `openSocket_trades`, `closeSocket_trades`, `map_trades` and `unmap_trades` are the calls that
  change it.
* `Uses o act`: `act` does no more than call on the socket `o` while it is open, so what the program
  holds stays as it is (`Uses.trades`).
-/

namespace PacketLink.Host

variable {α β : Type}

/-! ## Books -/

/-- How far a socket has come on a host. -/
def standingOf (h : Host) (s : SocketId) : Standing := standing h.trace.reverse s

/-- What the record tells of sockets, and how many there are. -/
def books (h : Host) : (SocketId → Standing) × Nat := (h.standingOf, h.sockets.size)

theorem standingOf_record (e : Event) (h : Host) (s : SocketId) :
    ((record e).run h).2.standingOf s = (h.standingOf s).after s e := by
  simp only [standingOf, standing, record, run_modify, List.reverse_cons,
    Standing.through_append]
  rfl

theorem books_record (e : Event) (h : Host) :
    ((record e).run h).2.books = (fun s => (h.standingOf s).after s e, h.sockets.size) :=
  Prod.ext (funext (standingOf_record e h)) rfl

theorem isAnonymous_of_socket? {e : Event} {s : SocketId} (hs : e.socket? = some s) :
    e.isAnonymous = false := by
  cases e with
  | map owner | unmap owner =>
    cases hs
    rfl
  | _ => rfl

namespace Standing

variable {s s' : SocketId} {x : Standing} {e : Event}

theorem after_of_socket? (hs : e.socket? = some s) : x.after s e = x.next e := by
  simp only [after, isAnonymous_of_socket? hs, Bool.false_eq_true, if_false, hs, if_true]

theorem after_of_ne (hs : e.socket? = some s) (hne : s' ≠ s) : x.after s' e = x := by
  have hne : e.socket? ≠ some s' := fun h => hne (Option.some.inj (h.symm.trans hs))
  simp only [after, isAnonymous_of_socket? hs, Bool.false_eq_true, if_false, hne]

theorem after_of_none (hs : e.socket? = none) (hn : e.isAnonymous = false) : x.after s e = x := by
  have hne : e.socket? ≠ some s := fun h => nomatch hs.symm.trans h
  simp only [after, hn, Bool.false_eq_true, if_false, hne]

theorem next_of_isOpen (hu : e.isUse = true) (ho : x.isOpen = true) : x.next e = x := by
  rw [next_of_isUse hu, if_pos ho]

theorem next_ne_absent (hx : x ≠ .absent) (e : Event) : x.next e ≠ .absent := by
  intro h
  cases e with
  | socket | unmap =>
    simp only [next] at h
    split at h <;> cases h
  | map owner length outcome =>
    rcases outcome with _ | ⟨⟩
    all_goals
      simp only [next] at h
      split at h
    · exact hx h
    all_goals cases h
  | close =>
    simp only [next] at h
    split at h <;> cases h
  | _ =>
    simp only [next] at h
    split at h
    · exact hx h
    · cases h

end Standing

theorem enter_books (c : Call) : Keeps books (enter c) := fun _ => rfl

theorem report_books (e : Log.Entry) : Keeps books (report e) := fun _ => rfl

theorem reportAll_books (es : List Log.Entry) : Keeps books (reportAll es) := fun _ => rfl

theorem updateMapping_books (id : MappingId) (change : Mapping → Mapping) :
    Keeps books (updateMapping id change) := fun _ => rfl

theorem updateQueue_books (s : SocketId) (change : List Bytes → List Bytes) :
    Keeps books (updateQueue s change) :=
  .modify fun _ => Prod.ext rfl Array.size_modify

/-- What names no socket changes no books. -/
theorem record_books {e : Event} (hs : e.socket? = none) (hn : e.isAnonymous = false) :
    Keeps books (record e) := by
  intro h
  rw [books_record]
  simp only [Standing.after_of_none hs hn]
  rfl

theorem attempt_books {c : Call} {event : Outcome α → Event} {effect : Sys (Outcome α)}
    (he : ∀ outcome, (event outcome).socket? = none ∧ (event outcome).isAnonymous = false)
    (hx : Keeps books effect) : Keeps books (attempt c event effect) :=
  .attempt (enter_books c) (fun outcome => record_books (he outcome).1 (he outcome).2) hx

/-! ## Use of an open socket -/

/-- `act` does no more than call on a socket, if it is open. -/
def Uses (o : Option SocketId) (act : Sys α) : Prop :=
  ∀ h, (∀ s, o = some s → (h.standingOf s).isOpen = true) → (act.run h).2.books = h.books

namespace Uses

variable {o : Option SocketId}

theorem of_keeps {act : Sys α} (hk : Keeps books act) : Uses o act := fun h _ => hk h

theorem pure (a : α) : Uses o (pure a : Sys α) := .of_keeps (.pure a)

theorem get : Uses o (get : Sys Host) := .of_keeps .get

theorem bind_gives {P : α → Prop} {act : Sys α} {next : α → Sys β} (hg : Gives P act)
    (ha : Uses o act) (hn : ∀ a, P a → Uses o (next a)) : Uses o (act >>= next) := by
  intro h ho
  have hb := ha h ho
  have hs : (act.run h).2.standingOf = h.standingOf := congrArg Prod.fst hb
  refine (hn _ (hg h) _ fun s hso => ?_).trans hb
  exact (congrArg Standing.isOpen (congrFun hs s)).trans (ho s hso)

theorem bind {act : Sys α} {next : α → Sys β} (ha : Uses o act) (hn : ∀ a, Uses o (next a)) :
    Uses o (act >>= next) := bind_gives (P := fun _ => True) (fun _ => trivial) ha fun a _ => hn a

end Uses

theorem record_uses {e : Event} {s : SocketId} (hs : e.socket? = some s) (hu : e.isUse = true) :
    Uses (some s) (record e) := by
  intro h ho
  rw [books_record]
  refine Prod.ext (funext fun s' => ?_) rfl
  by_cases hne : s' = s
  · subst hne
    exact (Standing.after_of_socket? hs).trans (Standing.next_of_isOpen hu (ho s' rfl))
  · exact Standing.after_of_ne hs hne

theorem attempt_uses {c : Call} {event : Outcome α → Event} {effect : Sys (Outcome α)}
    {s : SocketId}
    (he : ∀ outcome, (event outcome).socket? = some s ∧ (event outcome).isUse = true)
    (hx : Uses (some s) effect) : Uses (some s) (attempt c event effect) := by
  refine (Uses.of_keeps (enter_books c)).bind fun code => ?_
  have hlast (outcome : Outcome α) : Uses (some s) (do record (event outcome); pure outcome) :=
    (record_uses (he outcome).1 (he outcome).2).bind fun _ => .pure _
  split
  · exact (Uses.pure _).bind hlast
  · exact hx.bind hlast

variable (s : SocketId)

theorem setNonblocking_uses : Uses (some s) (setNonblocking s) :=
  attempt_uses (fun _ => ⟨rfl, rfl⟩) (.pure _)

theorem setOption_uses (option : Nat) (value : Bytes) : Uses (some s) (setOption s option value) :=
  attempt_uses (fun _ => ⟨rfl, rfl⟩) (.pure _)

theorem deliverInbound_books (frames : List SlotMemory.Delivery) :
    Keeps books (deliverInbound s frames) := by
  refine Keeps.get.bind fun h => ?_
  split
  · exact updateMapping_books _ _
  · exact updateQueue_books _ _

theorem bind_uses (address : LinkAddress) : Uses (some s) (bind s address) := by
  refine attempt_uses (fun _ => ⟨rfl, rfl⟩) (.of_keeps ?_)
  split
  · exact Keeps.get.bind fun h => (deliverInbound_books s _).bind fun _ => .pure _
  · exact .pure _

theorem readStatistics_uses : Uses (some s) (readStatistics s) :=
  attempt_uses (fun _ => ⟨rfl, rfl⟩) (.bind .get fun _ => .pure _)

theorem sendTo_uses (frame : Bytes) (address : LinkAddress) :
    Uses (some s) (sendTo s frame address) :=
  Uses.get.bind fun _ => attempt_uses (fun _ => ⟨rfl, rfl⟩) (.bind .get fun _ => .pure _)

theorem receive_uses (length : Nat) : Uses (some s) (receive s length) := by
  refine attempt_uses (fun _ => ⟨rfl, rfl⟩) (.bind .get fun h => ?_)
  split
  · exact .pure _
  · exact .of_keeps ((updateQueue_books s _).bind fun _ => .pure _)

theorem transmitFrom_uses (id : MappingId) (n : Nat) : Uses (some s) (transmitFrom s id n) := by
  intro h ho
  refine transmitFrom_induction s id (P := fun h' => h'.books = h.books) (fun h' k hb _ _ => ?_)
    n h rfl
  have hs : h'.standingOf = h.standingOf := congrArg Prod.fst hb
  have hsize : h'.sockets.size = h.sockets.size := congrArg Prod.snd hb
  have hr := record_uses (e := .transmit s k.nextSend (k.memory.queued k.nextSend)) (s := s) rfl rfl
    h' fun s' hs' => by rw [hs]; exact ho s' hs'
  exact hr.trans (Prod.ext hs hsize)

theorem flush_uses : Uses (some s) (flush s) := by
  refine (attempt_uses (fun _ => ⟨rfl, rfl⟩) (.pure _)).bind fun outcome => ?_
  match outcome with
  | .error e => exact .pure _
  | .ok () =>
    refine Uses.get.bind fun h => ?_
    split
    · exact (transmitFrom_uses s _ _).bind fun _ => .pure _
    · exact .pure _

theorem hardwareAddress_uses (name : String) : Uses (some s) (hardwareAddress s name) := by
  refine attempt_uses (fun _ => ⟨rfl, rfl⟩) (.bind .get fun h => ?_)
  split <;> exact .pure _

theorem interfaceIndex_books (name : String) : Keeps books (interfaceIndex name) := by
  refine attempt_books (fun _ => ⟨rfl, rfl⟩) (.bind .get fun h => ?_)
  split <;> exact .pure _

/-! ## Holdings -/

/-- Sockets with how far they have come. -/
abbrev Held := List (SocketId × Standing)

/-- Of all sockets that were made, the program has these; the others are closed. -/
structure Holds (held : Held) (h : Host) : Prop where
  distinct : (held.map Prod.fst).Nodup
  present : ∀ s x, (s, x) ∈ held → x ≠ .absent
  stands : ∀ s x, (s, x) ∈ held → h.standingOf s = x
  others : ∀ s, s ∉ held.map Prod.fst → (h.standingOf s).isOver = true
  /-- A number that was not given to a socket yet stands for none. -/
  fresh : ∀ s : SocketId, h.sockets.size ≤ s.number → h.standingOf s = .absent

variable {s} {held : Held} {x : Standing} {h h' : Host} {e : Event}

theorem Holds.congr (hh : Holds held h) (hb : h'.books = h.books) : Holds held h' := by
  have hs : h'.standingOf = h.standingOf := congrArg Prod.fst hb
  have hsize : h'.sockets.size = h.sockets.size := congrArg Prod.snd hb
  exact ⟨hh.distinct, hh.present, by rw [hs]; exact hh.stands, by rw [hs]; exact hh.others,
    by rw [hs, hsize]; exact hh.fresh⟩

theorem Holds.perm {held' : Held} (hh : Holds held h) (hp : held.Perm held') : Holds held' h where
  distinct := (hp.map _).nodup_iff.mp hh.distinct
  present s x hm := hh.present s x (hp.mem_iff.mpr hm)
  stands s x hm := hh.stands s x (hp.mem_iff.mpr hm)
  others s hm := hh.others s fun hm' => hm ((hp.map _).mem_iff.mp hm')
  fresh := hh.fresh

/-- A closed socket is held no more. -/
theorem Holds.drop (hh : Holds ((s, x) :: held) h) (hx : x.isOver = true) : Holds held h where
  distinct := (List.nodup_cons.mp hh.distinct).2
  present s' x' hm := hh.present s' x' (List.mem_cons_of_mem _ hm)
  stands s' x' hm := hh.stands s' x' (List.mem_cons_of_mem _ hm)
  others s' hm := by
    by_cases hne : s' = s
    · subst hne
      rw [hh.stands s' x List.mem_cons_self]
      exact hx
    · exact hh.others s' fun hm' => (List.mem_cons.mp hm').elim hne hm
  fresh := hh.fresh

/-- A host on which nothing was done yet. -/
theorem Holds.start (script : Script) : Holds [] (ofScript script) :=
  ⟨.nil, nofun, nofun, fun _ _ => rfl, fun _ _ => rfl⟩

/-- If a program holds nothing, its calls are settled. -/
theorem Holds.settled (hh : Holds [] h) : Settled h.taken.1 :=
  settled_of_isOver fun s => hh.others s List.not_mem_nil

/-- An event that names a held socket changes the standing of that socket only. -/
theorem Holds.record (hh : Holds ((s, x) :: held) h) (hs : e.socket? = some s) :
    Holds ((s, x.next e) :: held) ((record e).run h).2 where
  distinct := hh.distinct
  present s' x' hm := by
    rcases List.mem_cons.mp hm with heq | hrest
    · cases heq
      exact Standing.next_ne_absent (hh.present s x List.mem_cons_self) e
    · exact hh.present s' x' (List.mem_cons_of_mem _ hrest)
  stands s' x' hm := by
    rw [standingOf_record]
    rcases List.mem_cons.mp hm with heq | hrest
    · cases heq
      rw [Standing.after_of_socket? hs, hh.stands s x List.mem_cons_self]
    · have hne : s' ≠ s := by
        intro heq
        subst heq
        exact (List.nodup_cons.mp hh.distinct).1 (List.mem_map.mpr ⟨_, hrest, rfl⟩)
      rw [Standing.after_of_ne hs hne]
      exact hh.stands s' x' (List.mem_cons_of_mem _ hrest)
  others s' hm := by
    have hne : s' ≠ s := fun heq => hm (heq ▸ List.mem_cons_self)
    rw [standingOf_record, Standing.after_of_ne hs hne]
    exact hh.others s' hm
  fresh s' hsize := by
    have hne : s' ≠ s := fun heq => hh.present s x List.mem_cons_self <|
      (hh.stands s x List.mem_cons_self).symm.trans (heq ▸ hh.fresh s' hsize)
    rw [standingOf_record, Standing.after_of_ne hs hne]
    exact hh.fresh s' hsize

/-! ## Trades -/

/-- Holdings after a call that may fail. -/
def heldIf {ε γ : Type} (done : γ → Held) (otherwise : Held) : Except ε γ → Held
  | .ok a => done a
  | .error _ => otherwise

/-- What a program holds after `act`, if it holds `before` at first. -/
def Trades (before : Held) (act : Sys α) (after : α → Held) : Prop :=
  ∀ h, Holds before h → Holds (after (act.run h).1) (act.run h).2

namespace Trades

variable {before : Held} {after : α → Held}

theorem pure {a : α} (ha : after a = before) : Trades before (pure a) after := by
  intro h hh
  subst ha
  exact hh

theorem bind {next : α → Sys β} {act : Sys α} {last : β → Held} (ha : Trades before act after)
    (hn : ∀ a, Trades (after a) (next a) last) : Trades before (act >>= next) last :=
  fun h hh => hn _ _ (ha h hh)

theorem of_books {act : Sys α} (hk : Keeps books act) : Trades held act fun _ => held :=
  fun h hh => hh.congr (hk h)

/-- The order in which sockets are listed does not matter. -/
theorem swap {p q : SocketId × Standing} {act : Sys α} {after : α → SocketId × Standing}
    (ht : Trades (q :: p :: held) act fun a => after a :: p :: held) :
    Trades (p :: q :: held) act fun a => p :: after a :: held :=
  fun h hh => (ht h (hh.perm (.swap q p held))).perm (.swap p _ held)

end Trades

/-- Using a held socket that is open changes no holdings. -/
theorem Uses.trades {o : Option SocketId} {act : Sys α} (hu : Uses o act)
    (ho : ∀ s, o = some s → ∃ x, (s, x) ∈ held ∧ x.isOpen = true) :
    Trades held act fun _ => held := by
  intro h hh
  refine hh.congr (hu h fun s hs => ?_)
  obtain ⟨x, hm, hx⟩ := ho s hs
  rw [hh.stands s x hm]
  exact hx

/-- A call on record that names a held socket. -/
theorem attempt_trades {c : Call} (event : Outcome α → Event) {effect : Sys (Outcome α)}
    (hs : ∀ outcome, (event outcome).socket? = some s) (hk : Keeps books effect) :
    Trades ((s, x) :: held) (attempt c event effect) fun outcome =>
      (s, x.next (event outcome)) :: held := by
  have hlast (outcome : Outcome α) : Trades ((s, x) :: held)
      (do Host.record (event outcome); Pure.pure outcome) fun outcome =>
        (s, x.next (event outcome)) :: held :=
    fun h hh => hh.record (hs outcome)
  refine (Trades.of_books (enter_books c)).bind fun code => ?_
  split
  · exact (Trades.of_books (.pure _)).bind hlast
  · exact (Trades.of_books hk).bind hlast

/-- Closing a socket without a ring in use ends it, whatever the answer. -/
theorem closeSocket_trades (hx : ∀ outcome, (x.next (.close s outcome)).isOver = true) :
    Trades ((s, x) :: held) (closeSocket s) fun _ => held :=
  fun h hh => (attempt_trades (.close s) (fun _ => rfl) (.pure _) h hh).drop (hx _)

/-- Unmapping a ring strips its socket, whatever the answer. -/
theorem unmap_trades (id : MappingId) (length : Nat) :
    Trades ((s, .ringed length) :: held) (unmap id (some s) length) fun _ =>
      (s, .stripped length) :: held := by
  have hnext (outcome : Outcome Unit) :
      (Standing.ringed length).next (.unmap (some s) length outcome) = .stripped length :=
    if_pos rfl
  refine (Trades.of_books (updateMapping_books id _)).bind fun _ h hh => ?_
  rw [← hnext ((plainCall .unmap (.unmap (some s) length)).run h).1]
  exact attempt_trades (.unmap (some s) length) (fun _ => rfl) (.pure _) h hh

/-- Mapping a ring puts it on its socket, unless the call fails. -/
theorem map_holds (d : RingDirection) (count : Nat) (hh : Holds ((s, .bare) :: held) h) :
    Holds (heldIf (fun _ => (s, .ringed (h.pageSize * count)) :: held) ((s, .bare) :: held)
      ((Host.map (some s) d count).run h).1) ((Host.map (some s) d count).run h).2 := by
  have hnext (outcome : Outcome MappingId) :
      heldIf (fun _ => (s, .ringed (h.pageSize * count)) :: held) ((s, .bare) :: held) outcome =
        (s, Standing.bare.next (.map (some s) (h.pageSize * count) (outcome.map fun _ => ())))
          :: held := by
    cases outcome <;> rfl
  rw [Host.map, run_bind, run_get, hnext]
  refine attempt_trades (fun outcome => .map (some s) (h.pageSize * count)
    (outcome.map fun _ => ())) (fun _ => rfl) ?_ h hh
  split
  · exact .pure _
  · exact fun _ => rfl

/-- The next socket that is made is held without a ring. -/
theorem Holds.make (hh : Holds held h) (family : SocketFamily) :
    Holds ((⟨h.sockets.size⟩, .bare) :: held)
      ((Host.record (.socket family (.ok ⟨h.sockets.size⟩))).run
        { h with sockets := h.sockets.push {} }).2 := by
  let made : SocketId := ⟨h.sockets.size⟩
  have habsent : h.standingOf made = .absent := hh.fresh made (Nat.le_refl _)
  have hnew : made ∉ held.map Prod.fst := by
    intro hm
    obtain ⟨⟨s, x⟩, hm, rfl⟩ := List.mem_map.mp hm
    exact hh.present _ x hm ((hh.stands _ x hm).symm.trans habsent)
  have hother {s : SocketId} (hne : s ≠ made) :
      ((Host.record (.socket family (.ok made))).run
        { h with sockets := h.sockets.push {} }).2.standingOf s = h.standingOf s :=
    (standingOf_record _ _ s).trans (Standing.after_of_ne rfl hne)
  refine ⟨List.nodup_cons.mpr ⟨hnew, hh.distinct⟩, fun s x hm => ?_, fun s x hm => ?_,
    fun s hm => ?_, fun s hsize => ?_⟩
  · rcases List.mem_cons.mp hm with heq | hrest
    · cases heq
      decide
    · exact hh.present s x hrest
  · rcases List.mem_cons.mp hm with heq | hrest
    · cases heq
      refine (standingOf_record _ _ made).trans ((Standing.after_of_socket? rfl).trans ?_)
      rw [show Host.standingOf { h with sockets := h.sockets.push {} } made = .absent from habsent]
      rfl
    · have hne : s ≠ made := fun heq => hnew (heq ▸ List.mem_map.mpr ⟨_, hrest, rfl⟩)
      rw [hother hne]
      exact hh.stands s x hrest
  · have hne : s ≠ made := fun heq => hm (heq ▸ List.mem_cons_self)
    rw [hother hne]
    exact hh.others s fun hm' => hm (List.mem_cons_of_mem _ hm')
  · have hsize : (h.sockets.push {}).size ≤ s.number := hsize
    rw [Array.size_push] at hsize
    have hne : s ≠ made := by
      rintro rfl
      exact absurd hsize (Nat.not_succ_le_self _)
    rw [hother hne]
    exact hh.fresh s (by omega)

theorem openSocket_trades (family : SocketFamily) :
    Trades held (openSocket family) (heldIf (fun s => (s, .bare) :: held) held) := by
  refine (Trades.of_books (enter_books _)).bind fun code => ?_
  split
  · exact fun h hh => hh.congr (record_books (e := .socket family (.error _)) rfl rfl h)
  · exact fun h hh => hh.make family

end PacketLink.Host
