import PacketLink.Proofs.Host.Holdings
import PacketLink.Proofs.Link.Lifecycle
import PacketLink.Proofs.Traffic.Steps

/-!
# Nothing is left behind

* `Transport.held`: what a link holds of the kernel, read off its descriptors.
* A worker only calls on the socket of its channel (`Worker.turns_uses`) and leaves the make of its
  channel as it is (`Worker.turns_make`), so its turns change no holdings.
* `Accounted l h`: a coherent link holds on the host what its descriptors say, and nothing else.
  Every operation keeps it (`Accounted.run`).
* `live_ringed`: as long as a link is bound its rings are mapped.
* `nothing_left_behind`: after any operations and a disposal, all calls on record are settled.
-/

namespace PacketLink

open Host

/-! ## Channels in use -/

/-- What stays of a ring while frames pass through it. -/
def Ring.make (r : Ring) : Option PacketSocket × Nat × Nat := (r.socket, r.slotSize, r.capacity)

namespace Ring

variable (r : Ring)

theorem acquireRead_make : Gives (fun a => a.2.make = r.make) r.acquireRead := by
  unfold acquireRead
  split
  · exact .pure rfl
  · refine .then fun h => ?_
    dsimp only
    split
    · exact .pure rfl
    · split
      · exact .then fun _ => .pure rfl
      · exact .pure rfl

theorem releaseRead_make : Gives (fun a => a.2.make = r.make) r.releaseRead := by
  unfold releaseRead
  split
  · exact .then fun _ => .pure rfl
  · exact .pure rfl

theorem submitWrite_make (slot : Slot) (frame : Bytes) :
    Gives (fun a => a.2.make = r.make) (r.submitWrite slot frame) := by
  unfold submitWrite
  split
  · exact .pure rfl
  · refine .then fun _ => ?_
    split
    · exact .pure rfl
    · refine .then fun outcome => ?_
      cases outcome with
      | error e => exact .pure rfl
      | ok => exact .pure rfl

end Ring

/-- What stays of a channel while frames pass through it. -/
def Channel.make : Channel → PacketSocket ⊕ (Option PacketSocket × Nat × Nat)
  | .socket s => .inl s
  | .ring r => .inr r.make

theorem Channel.owner_eq {c c' : Channel} (h : c'.make = c.make) : c'.owner = c.owner := by
  cases c with
  | socket s =>
    cases c' with
    | socket s' => exact congrArg (fun s => some s.id) (Sum.inl.inj h)
    | ring r' => cases h
  | ring r =>
    cases c' with
    | socket s' => cases h
    | ring r' => exact congrArg (fun m => m.1.map (·.id)) (Sum.inr.inj h)

theorem Channel.ring_of_make {c : Channel} {r : Ring} (h : (Channel.ring r).make = c.make) :
    ∃ r', c = .ring r' ∧ r.make = r'.make := by
  cases c with
  | socket s => cases h
  | ring r' => exact ⟨r', rfl, Sum.inr.inj h⟩

/-- Every step of a worker is a use of its socket, if it does anything on the books at all. -/
theorem Host.Uses.steps {o : Option SocketId} : Steps o fun act => Uses o act where
  pure := Uses.pure
  get := Uses.get
  bind := Uses.bind
  report e := .of_keeps (report_books e)
  reportAll es := .of_keeps (reportAll_books es)
  updateMemory id _ := .of_keeps (updateMapping_books id _)
  readStatistics s hs := hs ▸ readStatistics_uses s
  sendTo s hs := hs ▸ sendTo_uses s
  receive s hs := hs ▸ receive_uses s
  flush s hs := hs ▸ flush_uses s

namespace Receiver

theorem takeFromRing_make (r : Ring) (kind : FrameKind) :
    Gives (fun a => a.2.make = r.make) (takeFromRing r kind) := by
  refine r.acquireRead_make.bind fun ⟨outcome, r'⟩ hr' => ?_
  match outcome with
  | .error e => exact .pure hr'
  | .ok none => exact .pure hr'
  | .ok (some slot) =>
    refine .then fun decoded => r'.releaseRead_make.bind fun ⟨outcome, r''⟩ hr'' => ?_
    cases outcome with
    | error e => exact .pure (hr''.trans hr')
    | ok => exact .pure (hr''.trans hr')

variable (x : Receiver)

theorem take_make : Gives (fun a => a.2.channel.make = x.channel.make) x.take := by
  unfold take
  cases hc : x.channel with
  | socket s => exact .then fun _ => .pure rfl
  | ring r => exact (takeFromRing_make r _).bind fun _ hr => .pure (congrArg Sum.inr hr)

theorem onReady_make : Gives (fun a => a.2.channel.make = x.channel.make) x.onReady := by
  refine x.take_make.bind fun ⟨outcome, x'⟩ hx => ?_
  match outcome with
  | .error e => exact .pure hx
  | .ok none => exact .pure hx
  | .ok (some f) => exact .then fun _ => .pure hx

end Receiver

namespace Transmitter

theorem sendToRing_make (r : Ring) (bytes : Bytes) :
    Gives (fun a => a.2.make = r.make) (sendToRing r bytes) := by
  refine .then fun outcome => ?_
  obtain e | _ | slot := outcome
  · exact .pure rfl
  · exact .pure rfl
  · dsimp only
    split
    · refine .then fun _ => (r.submitWrite_make _ _).bind fun a ha => ?_
      obtain ⟨_ | _, r'⟩ := a <;> exact .pure ha
    · refine (r.submitWrite_make _ _).bind fun a ha => ?_
      obtain ⟨_ | _, r'⟩ := a <;> exact .pure ha

variable (x : Transmitter)

theorem send_make (bytes : Bytes) :
    Gives (fun a => a.2.channel.make = x.channel.make) (x.send bytes) := by
  unfold send
  cases hc : x.channel with
  | socket s => exact .then fun _ => .pure (congrArg Channel.make hc)
  | ring r => exact (sendToRing_make r _).bind fun _ hr => .pure (congrArg Sum.inr hr)

theorem onReady_make : Gives (fun a => a.2.channel.make = x.channel.make) x.onReady := by
  unfold onReady
  split
  · exact .pure rfl
  · refine (x.send_make _).bind fun ⟨outcome, x'⟩ hx => ?_
    match outcome with
    | .error e => exact .pure hx
    | .ok false => exact .pure hx
    | .ok true => exact .pure hx

end Transmitter

namespace Worker

/-- What stays of a worker from turn to turn. -/
def make (w : Worker) : Readiness × (PacketSocket ⊕ (Option PacketSocket × Nat × Nat)) :=
  (w.readiness, w.channel.make)

theorem onReady_uses (w : Worker) : Uses w.channel.owner w.onReady :=
  w.onReady_steps Uses.steps

theorem onReady_make (w : Worker) : Gives (fun a => a.2.make = w.make) w.onReady := by
  cases w with
  | receiver x => exact x.onReady_make.bind fun _ hx => .pure (congrArg (Prod.mk _) hx)
  | transmitter x => exact x.onReady_make.bind fun _ hx => .pure (congrArg (Prod.mk _) hx)

theorem turns_make (n : Nat) (w : Worker) : Gives (fun w' => w'.make = w.make) (w.turns n) := by
  induction n generalizing w with
  | zero => exact .pure rfl
  | succ n ih => exact w.onReady_make.bind fun a ha s => (ih a.2 s).trans ha

theorem turns_uses (n : Nat) (w : Worker) : Uses w.channel.owner (w.turns n) := by
  induction n generalizing w with
  | zero => exact .pure _
  | succ n ih =>
    refine Uses.bind_gives w.onReady_make w.onReady_uses fun a ha => ?_
    rw [← Channel.owner_eq (congrArg Prod.snd ha)]
    exact ih a.2

end Worker

/-! ## Holdings of a link -/

/-- The standing of a socket for a ring. -/
def Ring.standing : Option Ring → Standing
  | none => .bare
  | some r => .ringed (r.slotSize * r.capacity)

theorem Ring.standing_congr {r r' : Ring} (h : r'.make = r.make) :
    standing (some r') = standing (some r) :=
  congrArg (fun m : Option PacketSocket × Nat × Nat => Standing.ringed (m.2.1 * m.2.2)) h

/-- What a link holds through its descriptors. -/
def Transport.held : Transport → Held
  | .unopened => []
  | .direct s => [(s.id, .bare)]
  | .rings rxRing txRing rx tx => [(rx.id, Ring.standing rxRing), (tx.id, Ring.standing txRing)]

/-- The rings belong to the sockets beside them. -/
def Transport.IsMatched : Transport → Prop
  | .unopened | .direct _ => True
  | .rings rxRing txRing rx tx =>
    (∀ r, rxRing = some r → r.socket = some rx) ∧ ∀ r, txRing = some r → r.socket = some tx

theorem Transport.IsFor.isMatched {config : LinkConfig} {transport : Transport}
    (hfor : transport.IsFor config false) : transport.IsMatched := by
  cases transport with
  | unopened | direct => trivial
  | rings rxRing txRing rx tx =>
    obtain ⟨-, hrx, htx⟩ := hfor
    refine ⟨fun r hr => ?_, fun r hr => ?_⟩
    · rw [hr] at hrx
      cases hrx
    · rw [hr] at htx
      cases htx

variable {held : Held}

theorem PacketSocket.discard_trades (s : PacketSocket) :
    Trades ((s.id, .bare) :: held) s.discard fun _ => held :=
  Trades.bind (closeSocket_trades fun _ => rfl) fun _ => .pure rfl

theorem PacketSocket.open?_trades :
    Trades held open? (heldIf (fun s => (s.id, .bare) :: held) held) := by
  refine (openSocket_trades .packet).bind fun outcome => ?_
  cases outcome with
  | error e => exact .pure rfl
  | ok id =>
    refine ((setNonblocking_uses id).trades fun s hs => ?_).bind fun outcome => ?_
    · cases hs
      exact ⟨.bare, List.mem_cons_self, rfl⟩
    · cases outcome with
      | error e => exact (discard_trades ⟨id⟩).bind fun _ => .pure rfl
      | ok => exact .pure rfl

/-! ### Opening -/

theorem Resolver.hardwareAddress_trades (name : String) :
    Trades held (hardwareAddress name) fun _ => held := by
  refine (openSocket_trades .datagram).bind fun outcome => ?_
  cases outcome with
  | error e => exact .pure rfl
  | ok s =>
    refine ((hardwareAddress_uses s name).trades fun s' hs => ?_).bind fun outcome =>
      (closeSocket_trades fun _ => rfl).bind fun _ => .pure rfl
    cases hs
    exact ⟨.bare, List.mem_cons_self, rfl⟩

theorem Resolver.resolve_trades (resolver : Resolver) (name : String) :
    Trades held (resolver.resolve name) fun _ => held := by
  cases resolver with
  | system =>
    unfold resolve askSystem
    dsimp only
    split
    · exact .pure rfl
    · refine (Trades.of_books (interfaceIndex_books name)).bind fun outcome => ?_
      match outcome with
      | .error e => exact .pure rfl
      | .ok 0 => exact .pure rfl
      | .ok (index + 1) =>
        refine (hardwareAddress_trades name).bind fun outcome => ?_
        cases outcome with
        | error e => exact .pure rfl
        | ok mac => exact .pure rfl
  | fixed interface => exact .pure rfl
  | failing cause => exact .pure rfl

/-- Descriptors that cannot all be opened are closed again. -/
theorem LinkSocket.openTransport_trades (config : LinkConfig) :
    Trades [] (openTransport config) (heldIf Transport.held []) := by
  refine PacketSocket.open?_trades.bind fun outcome => ?_
  cases outcome with
  | error e => exact .pure rfl
  | ok first =>
    dsimp only
    split
    · refine PacketSocket.open?_trades.bind fun outcome => ?_
      cases outcome with
      | error e => exact first.discard_trades.bind fun _ => .pure rfl
      | ok second => exact fun h hh => hh.perm (.swap _ _ _)
    · exact .pure rfl

/-! ### Binding -/

/-- Making the ring of a socket maps it, or leaves the socket without a ring. -/
theorem Ring.open?_trades (s : PacketSocket) (d : RingDirection) (frames : Nat) :
    Trades ((s.id, .bare) :: held) (Ring.open? s d frames) fun outcome =>
      (s.id, standing outcome.toOption) :: held := by
  have hoption (option : Nat) (value : Bytes) : Trades ((s.id, .bare) :: held)
      (Host.setOption s.id option value) fun _ => (s.id, .bare) :: held := by
    refine (setOption_uses s.id option value).trades fun s' hs => ?_
    cases hs
    exact ⟨.bare, List.mem_cons_self, rfl⟩
  have hmap (capacity : Nat) : Trades ((s.id, .bare) :: held) (mapSlots (some s) d capacity)
      fun outcome => (s.id, standing outcome.toOption) :: held := by
    intro h hh
    have hm := map_holds d capacity hh
    rw [mapSlots, run_bind, run_get, run_bind]
    generalize hr : (Host.map (some s.id) d capacity).run h = mapped at hm
    obtain ⟨outcome, h'⟩ := mapped
    rw [show (Host.map (Option.map (·.id) (some s)) d capacity).run h = (outcome, h') from hr]
    cases outcome with
    | error e => exact hm
    | ok mapping => exact hm
  unfold Ring.open?
  split
  · exact .pure rfl
  · refine (Trades.of_books .get).bind fun h => ?_
    dsimp only
    refine (hoption _ _).bind fun outcome => ?_
    match outcome with
    | .error e => exact .pure rfl
    | .ok () =>
      refine (hoption _ _).bind fun outcome => ?_
      match outcome with
      | .error e => exact .pure rfl
      | .ok () => exact hmap _

theorem Ring.open?_socket (s : PacketSocket) (d : RingDirection) (frames : Nat) :
    Gives (fun outcome => ∀ r, outcome = .ok r → r.socket = some s) (Ring.open? s d frames) := by
  unfold Ring.open?
  split
  · exact .pure nofun
  · refine .then fun h => ?_
    dsimp only
    refine .then fun outcome => ?_
    match outcome with
    | .error e => exact .pure nofun
    | .ok () =>
      refine .then fun outcome => ?_
      match outcome with
      | .error e => exact .pure nofun
      | .ok () =>
        refine .then fun h => .then fun outcome => ?_
        cases outcome with
        | error e => exact .pure nofun
        | ok mapping =>
          refine .pure fun r hr => ?_
          cases hr
          rfl

namespace LinkSocket

variable {s rx tx : PacketSocket}

theorem bindSocket_uses (s : PacketSocket) (interfaceIndex protocol : Nat) :
    Uses (some s.id) (bindSocket s interfaceIndex protocol) := by
  refine (bind_uses s.id _).bind fun outcome => ?_
  cases outcome with
  | error e => exact .pure _
  | ok => exact .pure _

theorem bindReceiver_uses (s : PacketSocket) (interfaceIndex : Nat) :
    Uses (some s.id) (bindReceiver s interfaceIndex) := by
  refine (bindSocket_uses s _ _).bind fun outcome => ?_
  match outcome with
  | .error e => exact .pure _
  | .ok () =>
    refine (setOption_uses s.id _ _).bind fun outcome => ?_
    cases outcome with
    | error e => exact .pure _
    | ok => exact .pure _

theorem bindDirect_uses (config : LinkConfig) (interfaceIndex : Nat) (s : PacketSocket) :
    Uses (some s.id) (bindDirect config interfaceIndex s) := by
  unfold bindDirect
  split
  · exact bindSocket_uses s _ _
  · exact bindReceiver_uses s _

/-- What only uses an open socket that is held changes no holdings. -/
theorem trades_of_mem {α : Type} {act : Sys α} {x : Standing} (hu : Uses (some s.id) act)
    (hm : (s.id, x) ∈ held) (hx : x.isOpen = true) : Trades held act fun _ => held := by
  refine hu.trades fun s' hs => ?_
  cases hs
  exact ⟨x, hm, hx⟩

theorem bindPair_trades {x y : Standing} (config : LinkConfig) (interfaceIndex : Nat)
    (hx : x.isOpen = true) (hy : y.isOpen = true) :
    Trades [(rx.id, x), (tx.id, y)] (bindPair config interfaceIndex rx tx) fun _ =>
      [(rx.id, x), (tx.id, y)] := by
  have hrx {α : Type} {act : Sys α} (hu : Uses (some rx.id) act) :
      Trades [(rx.id, x), (tx.id, y)] act fun _ => [(rx.id, x), (tx.id, y)] :=
    trades_of_mem hu List.mem_cons_self hx
  have htx {α : Type} {act : Sys α} (hu : Uses (some tx.id) act) :
      Trades [(rx.id, x), (tx.id, y)] act fun _ => [(rx.id, x), (tx.id, y)] :=
    trades_of_mem hu (List.mem_cons_of_mem _ List.mem_cons_self) hy
  unfold bindPair
  split
  · refine (htx (bindSocket_uses tx _ _)).bind fun outcome => ?_
    match outcome with
    | .error e => exact .pure rfl
    | .ok () => exact hrx (bindSocket_uses rx _ _)
  · refine (htx (bindSocket_uses tx _ _)).bind fun outcome => ?_
    match outcome with
    | .error e => exact .pure rfl
    | .ok () => exact hrx (bindReceiver_uses rx _)

theorem bindRings_trades (config : LinkConfig) (interfaceIndex : Nat) :
    Trades [(rx.id, .bare), (tx.id, .bare)] (bindRings config interfaceIndex rx tx) fun a =>
      a.2.held := by
  refine (Ring.open?_trades rx .receive _).bind fun outcome => ?_
  cases outcome with
  | error e => exact .pure rfl
  | ok rxRing =>
    refine (Trades.swap (Ring.open?_trades tx .send _)).bind fun outcome => ?_
    cases outcome with
    | error e => exact .pure rfl
    | ok txRing => exact (bindPair_trades config interfaceIndex rfl rfl).bind fun _ => .pure rfl

theorem bindRings_isMatched (config : LinkConfig) (interfaceIndex : Nat) :
    Gives (fun a => a.2.IsMatched) (bindRings config interfaceIndex rx tx) := by
  refine (Ring.open?_socket rx .receive _).bind fun outcome hrx => ?_
  cases outcome with
  | error e => exact .pure ⟨nofun, nofun⟩
  | ok rxRing =>
    have hrx (r : Ring) (hr : some rxRing = some r) : r.socket = some rx :=
      Option.some.inj hr ▸ hrx rxRing rfl
    refine (Ring.open?_socket tx .send _).bind fun outcome htx => ?_
    cases outcome with
    | error e => exact .pure ⟨hrx, nofun⟩
    | ok txRing =>
      exact .then fun _ => .pure ⟨hrx, fun r hr => Option.some.inj hr ▸ htx txRing rfl⟩

variable {l : LinkSocket}

theorem openDescriptors_trades (ht : l.transport = .unopened) (resolver : Resolver) :
    Trades [] (l.openDescriptors resolver) fun a => a.2.transport.held := by
  have hnone : l.transport.held = [] := by rw [ht]; rfl
  refine (resolver.resolve_trades _).bind fun outcome => ?_
  cases outcome with
  | error e => exact .pure hnone
  | ok interface =>
    refine (openTransport_trades l.config).bind fun outcome => ?_
    cases outcome with
    | error e => exact .pure hnone
    | ok transport => exact (Trades.of_books (report_books _)).bind fun _ => .pure rfl

theorem openDescriptors_isMatched (hm : l.transport.IsMatched) (resolver : Resolver) :
    Gives (fun a => a.2.transport.IsMatched) (l.openDescriptors resolver) := by
  have hopen : Gives (fun outcome => ∀ transport, outcome = .ok transport → transport.IsMatched)
      (openTransport l.config) :=
    fun _ _ ht => (openTransport_isFor (Prod.ext ht rfl)).isMatched
  refine .then fun outcome => ?_
  cases outcome with
  | error e => exact .pure hm
  | ok interface =>
    refine hopen.bind fun outcome ht => ?_
    cases outcome with
    | error e => exact .pure hm
    | ok transport => exact .then fun _ => .pure (ht transport rfl)

theorem bindDescriptors_trades (hc : l.Coherent) (hs : l.state = .ready) :
    Trades l.transport.held l.bindDescriptors fun a => a.2.transport.held := by
  unfold bindDescriptors
  split
  · exact .pure rfl
  · split
    · exact .pure rfl
    · rename_i s ht
      have hheld : l.transport.held = [(s.id, .bare)] := by rw [ht]; rfl
      rw [hheld]
      exact (trades_of_mem (bindDirect_uses _ _ s) List.mem_cons_self rfl).bind fun _ => .pure hheld
    · rename_i rxRing txRing rx tx ht
      obtain ⟨rfl, rfl⟩ := hc.unmapped hs ht
      rw [ht]
      exact (bindRings_trades l.config _).bind fun _ => .pure rfl

theorem bindDescriptors_isMatched (hm : l.transport.IsMatched) :
    Gives (fun a => a.2.transport.IsMatched) l.bindDescriptors := by
  unfold bindDescriptors
  split
  · exact .pure hm
  · split
    · exact .pure hm
    · exact .then fun _ => .pure hm
    · exact (bindRings_isMatched l.config _).bind fun _ ht => .pure ht

theorem settle_trades (l : LinkSocket) (operation : String) (next : LinkState)
    (outcome : Except LinkError Unit) :
    Trades l.transport.held (l.settle operation next outcome) fun a => a.2.transport.held := by
  cases outcome with
  | ok => exact .pure rfl
  | error e => exact (Trades.of_books (report_books _)).bind fun _ => .pure rfl

theorem settle_isMatched (hm : l.transport.IsMatched) (operation : String) (next : LinkState)
    (outcome : Except LinkError Unit) :
    Gives (fun a => a.2.transport.IsMatched) (l.settle operation next outcome) := by
  cases outcome with
  | ok => exact .pure hm
  | error e => exact .then fun _ => .pure hm

/-! ### Working -/

theorem worker?_ok {traffic : TrafficOptions} {w : Worker} (hw : l.worker? traffic = .ok w) :
    l.channel? = some w.channel ∧ (w.readiness = .readable ↔ l.config.role = .receiver) := by
  unfold worker? at hw
  split at hw
  · cases hw
  · split at hw
    · cases hw
    · cases hw
    · rename_i hch
      cases hr : l.config.role with
      | receiver =>
        rw [hr] at hw
        cases hw
        exact ⟨hch, iff_of_true rfl rfl⟩
      | transmitter =>
        rw [hr] at hw
        cases hw
        exact ⟨hch, iff_of_false nofun nofun⟩

theorem channel_held (hm : l.transport.IsMatched) {c : Channel} (hc : l.channel? = some c)
    {s : SocketId} (hs : c.owner = some s) :
    ∃ x, (s, x) ∈ l.transport.held ∧ x.isOpen = true := by
  unfold channel? at hc
  split at hc
  · cases hc
  · rename_i ht
    cases hc
    cases hs
    rw [ht]
    exact ⟨.bare, List.mem_cons_self, rfl⟩
  · rename_i rxRing txRing rx tx ht hr
    obtain ⟨r, rfl, rfl⟩ := Option.map_eq_some_iff.mp hc
    rw [ht] at hm ⊢
    cases (Ring.owner_eq (hm.1 r rfl)).symm.trans hs
    exact ⟨_, List.mem_cons_self, rfl⟩
  · rename_i rxRing txRing rx tx ht hr
    obtain ⟨r, rfl, rfl⟩ := Option.map_eq_some_iff.mp hc
    rw [ht] at hm ⊢
    cases (Ring.owner_eq (hm.2 r rfl)).symm.trans hs
    exact ⟨_, List.mem_cons_of_mem _ List.mem_cons_self, rfl⟩

/-- Putting back a worker of the same make changes no holdings. -/
theorem putBack_held (hm : l.transport.IsMatched) {traffic : TrafficOptions} {w w' : Worker}
    (hw : l.worker? traffic = .ok w) (hmake : w'.make = w.make) :
    (l.putBack w').transport.held = l.transport.held ∧
      (l.putBack w').transport.IsMatched := by
  obtain ⟨hchannel, hrole⟩ := worker?_ok hw
  have hready : w'.readiness = w.readiness := congrArg Prod.fst hmake
  have hshape : w'.channel.make = w.channel.make := congrArg Prod.snd hmake
  unfold putBack
  split
  · rename_i r' ht hc'
    rw [hc'] at hshape
    obtain ⟨r, hc, hr⟩ := Channel.ring_of_make hshape
    rw [hc] at hchannel
    simp only [channel?, ht, hrole.mp hready.symm, Option.map_eq_some_iff, Channel.ring.injEq,
      exists_eq_right] at hchannel
    subst hchannel
    rw [ht] at hm ⊢
    refine ⟨?_, fun r'' hr'' => ?_, hm.2⟩
    · simp only [Transport.held, Ring.standing_congr hr]
    · cases hr''
      exact (congrArg Prod.fst hr).trans (hm.1 r rfl)
  · rename_i r' ht hc'
    rw [hc'] at hshape
    obtain ⟨r, hc, hr⟩ := Channel.ring_of_make hshape
    have hrole : l.config.role = .transmitter := by
      cases hx : l.config.role with
      | transmitter => rfl
      | receiver => exact nomatch hready.trans (hrole.mpr hx)
    rw [hc] at hchannel
    simp only [channel?, ht, hrole, Option.map_eq_some_iff, Channel.ring.injEq,
      exists_eq_right] at hchannel
    subst hchannel
    rw [ht] at hm ⊢
    refine ⟨?_, hm.1, fun r'' hr'' => ?_⟩
    · simp only [Transport.held, Ring.standing_congr hr]
    · cases hr''
      exact (congrArg Prod.fst hr).trans (hm.2 r rfl)
  · exact ⟨rfl, hm⟩

/-! ### Closing -/

/-- The standing of a socket whose ring, if it had one, is unmapped. -/
def withoutRing : Option Ring → Standing
  | none => .bare
  | some r => .stripped (r.slotSize * r.capacity)

theorem closeRing_trades {ring : Option Ring} (hm : ∀ r, ring = some r → r.socket = some s) :
    Trades ((s.id, Ring.standing ring) :: held) (closeRing ring) fun _ =>
      (s.id, withoutRing ring) :: held := by
  cases ring with
  | none => exact .pure rfl
  | some r =>
    have hunmap : Trades ((s.id, Ring.standing (some r)) :: held) r.unmap fun _ =>
        (s.id, withoutRing (some r)) :: held := by
      rw [Ring.unmap, hm r rfl]
      exact unmap_trades _ _
    have hclose : Trades ((s.id, Ring.standing (some r)) :: held) r.close fun _ =>
        (s.id, withoutRing (some r)) :: held := by
      refine hunmap.bind fun outcome => ?_
      cases outcome with
      | error e => exact .pure rfl
      | ok => exact .pure rfl
    exact hclose.bind fun _ => .pure rfl

theorem closeSocket_trades {x : Standing}
    (hx : ∀ outcome, (x.next (.close s.id outcome)).isOver = true) :
    Trades ((s.id, x) :: held) (closeSocket s) fun _ => held := by
  refine (Host.closeSocket_trades hx).bind fun outcome => ?_
  cases outcome with
  | error e => exact .pure rfl
  | ok => exact .pure rfl

theorem withoutRing_close (ring : Option Ring) (outcome : Outcome Unit) :
    ((withoutRing ring).next (.close s.id outcome)).isOver = true := by
  cases ring <;> rfl

/-- Rings are unmapped before their sockets are closed. -/
theorem closeTransport_trades (hm : l.transport.IsMatched) :
    Trades l.transport.held l.closeTransport fun _ => [] := by
  unfold closeTransport
  split
  · rename_i ht
    exact .pure (by rw [ht]; rfl)
  · rename_i s ht
    rw [ht]
    exact closeSocket_trades fun _ => rfl
  · rename_i rxRing txRing rx tx ht
    rw [ht] at hm ⊢
    refine (closeRing_trades hm.1).bind fun _ => ?_
    refine (Trades.swap (closeRing_trades hm.2)).bind fun _ => ?_
    refine (closeSocket_trades (withoutRing_close rxRing)).bind fun _ => ?_
    exact (closeSocket_trades (withoutRing_close txRing)).bind fun _ => .pure rfl

/-! ## Every operation -/

/-- A coherent link holds on the host what its descriptors say. -/
structure Accounted (l : LinkSocket) (h : Host) : Prop where
  coherent : l.Coherent
  matched : l.transport.IsMatched
  holds : Holds l.transport.held h

theorem Accounted.start (config : LinkConfig) (script : Script) :
    Accounted (new config) (ofScript script) := ⟨.new config, trivial, .start script⟩

variable {o : Operation} {h : Host}

/-- What `act` does with a link that is accounted for keeps it so, if it trades its holdings for
those of the link that it gives. -/
theorem Accounted.after {α : Type} {act : Sys (α × LinkSocket)} (ha : Accounted l h)
    (hc : (act.run h).1.2.Coherent) (hm : Gives (fun a => a.2.transport.IsMatched) act)
    (ht : Trades l.transport.held act fun a => a.2.transport.held) :
    Accounted (act.run h).1.2 (act.run h).2 := ⟨hc, hm h, ht h ha.holds⟩

theorem Accounted.open (ha : Accounted l h) (hs : l.state = .undefined) (resolver : Resolver) :
    Accounted ((l.open resolver).run h).1.2 ((l.open resolver).run h).2 := by
  have hr : l.refusal? "open" [.undefined] = none := refusal?_of_mem (by rw [hs]; decide)
  have ht : l.transport = .unopened := ha.coherent.unopened (.inl hs)
  have hheld : l.transport.held = [] := by rw [ht]; rfl
  refine ha.after (open_done hs resolver h).coherent ?_ ?_
  · simp only [LinkSocket.open, hr]
    refine (openDescriptors_isMatched ha.matched resolver).bind fun opened hm => ?_
    obtain ⟨_, l⟩ := opened
    exact settle_isMatched hm _ _ _
  · simp only [LinkSocket.open, hr, hheld]
    refine (openDescriptors_trades ht resolver).bind fun opened => ?_
    obtain ⟨_, l⟩ := opened
    exact settle_trades l _ _ _

theorem Accounted.bind (ha : Accounted l h) (hs : l.state = .ready) :
    Accounted (l.bind.run h).1.2 (l.bind.run h).2 := by
  have hr : l.refusal? "bind" [.ready] = none := refusal?_of_mem (by rw [hs]; decide)
  refine ha.after (bind_done ha.coherent hs h).coherent ?_ ?_
  · simp only [LinkSocket.bind, hr]
    refine (bindDescriptors_isMatched ha.matched).bind fun bound hm => ?_
    obtain ⟨_, l⟩ := bound
    exact settle_isMatched hm _ _ _
  · simp only [LinkSocket.bind, hr]
    refine (bindDescriptors_trades ha.coherent hs).bind fun bound => ?_
    obtain ⟨_, l⟩ := bound
    exact settle_trades l _ _ _

theorem Accounted.move (ha : Accounted l h) {allowed : List LinkState} (hm : l.state ∈ allowed)
    (operation : String) (next : LinkState) (message : String)
    (hc : ((l.move operation allowed next message).run h).1.2.Coherent) :
    Accounted ((l.move operation allowed next message).run h).1.2
      ((l.move operation allowed next message).run h).2 := by
  have hr : l.refusal? operation allowed = none := refusal?_of_mem hm
  refine ha.after hc ?_ ?_
  · simp only [LinkSocket.move, hr]
    exact .then fun _ => .pure ha.matched
  · simp only [LinkSocket.move, hr]
    exact (Trades.of_books (report_books _)).bind fun _ => .pure rfl

theorem Accounted.watch (ha : Accounted l h) (hs : l.state = .running) (traffic : TrafficOptions)
    (refusal : Option Errno) (turns : Nat) :
    Accounted (((Operation.watch traffic refusal turns).run l).run h).1.2
      (((Operation.watch traffic refusal turns).run l).run h).2 := by
  have hc := (watch_done ha.coherent hs traffic refusal turns h).coherent
  obtain ⟨w, hw⟩ := worker?_eq_ok ha.coherent hs traffic
  cases refusal with
  | some cause =>
    simp only [Operation.run, hw, run_pure]
    exact ha
  | none =>
    obtain ⟨hheld, hm⟩ := putBack_held ha.matched hw (w.turns_make turns h)
    have htrades := (w.turns_uses turns).trades fun s hs =>
      channel_held ha.matched (worker?_ok hw).1 hs
    refine ⟨hc, ?_, ?_⟩
    · simp only [Operation.run, hw, run_bind, run_pure]
      exact hm
    · simp only [Operation.run, hw, run_bind, run_pure]
      rw [hheld]
      exact htrades h ha.holds

theorem Accounted.close (ha : Accounted l h) :
    Accounted (l.close.run h).1.2 (l.close.run h).2 := by
  have hclosed := close_closed ha.coherent h
  refine ⟨(close_done ha.coherent h).coherent, by rw [hclosed]; trivial, ?_⟩
  rw [hclosed]
  by_cases hs : l.state = .closed
  · have hh := ha.holds
    rw [ha.coherent.unopened (.inr hs)] at hh
    simp only [LinkSocket.close, hs, if_true, run_pure]
    exact hh
  · simp only [LinkSocket.close, hs, if_false, run_bind, run_pure]
    exact closeTransport_trades ha.matched h ha.holds

/-- Every operation keeps a link accounted for. -/
theorem Accounted.run (ha : Accounted l h) (o : Operation) :
    Accounted ((o.run l).run h).1.2 ((o.run l).run h).2 := by
  by_cases hm : l.state ∈ o.allowed
  · have hc := (ha.coherent.run hm h).coherent
    cases o with
    | «open» resolver => exact ha.open (List.mem_singleton.mp hm) resolver
    | bind => exact ha.bind (List.mem_singleton.mp hm)
    | start => exact ha.move hm _ _ _ hc
    | stop => exact ha.move hm _ _ _ hc
    | watch traffic refusal turns =>
      exact ha.watch (List.mem_singleton.mp hm) traffic refusal turns
    | close => exact ha.close
  · rw [run_refused hm]
    exact ha

theorem Accounted.congr (ha : Accounted l h) {h' : Host} (hb : h'.books = h.books) :
    Accounted l h' := ⟨ha.coherent, ha.matched, ha.holds.congr hb⟩

/-- A link that is closed holds nothing. -/
theorem Accounted.close_holds (ha : Accounted l h) : Holds [] (l.close.run h).2 := by
  have hh := ha.close.holds
  rwa [close_closed ha.coherent h] at hh

theorem Accounted.discard (ha : Accounted l h) : Holds [] (l.discard.run h).2 := by
  unfold LinkSocket.discard
  by_cases hs : l.state = .closed
  · have hh := ha.holds
    rw [ha.coherent.unopened (.inr hs)] at hh
    rw [if_pos hs]
    exact hh
  · rw [if_neg hs, run_bind, run_bind]
    have hh (e : Log.Entry) := (ha.congr (report_books e h)).close_holds
    split
    · exact hh _
    · exact (hh _).congr (report_books _ _)

/-- Does what is asked of a link, one after the other. -/
def live : List Operation → LinkSocket → Sys LinkSocket
  | [], l => pure l
  | o :: rest, l => do
    let (_, l) ← o.run l
    live rest l

theorem Accounted.live (ha : Accounted l h) (operations : List Operation) :
    Accounted ((live operations l).run h).1 ((live operations l).run h).2 := by
  induction operations generalizing l h with
  | nil => exact ha
  | cons o rest ih => exact ih (ha.run o)

/-- Whatever was asked of a link before, while it is bound its rings are mapped, each on the socket
beside it. -/
theorem live_ringed (config : LinkConfig) (script : Script) (operations : List Operation)
    {rxRing txRing : Option Ring} {rx tx : PacketSocket}
    (hl : (live operations (new config)).run (ofScript script) = (l, h)) (hs : l.IsBound)
    (ht : l.transport = .rings rxRing txRing rx tx) :
    ∃ r r', rxRing = some r ∧ txRing = some r' ∧
      h.standingOf rx.id = .ringed (r.slotSize * r.capacity) ∧
      h.standingOf tx.id = .ringed (r'.slotSize * r'.capacity) := by
  have ha := (Accounted.start config script).live operations
  rw [hl] at ha
  have hfor := ha.coherent.isFor_bound hs
  have hstands := ha.holds.stands
  rw [ht] at hfor hstands
  obtain ⟨-, hrx, htx⟩ := hfor
  obtain ⟨r, rfl⟩ := Option.isSome_iff_exists.mp hrx
  obtain ⟨r', rfl⟩ := Option.isSome_iff_exists.mp htx
  exact ⟨r, r', rfl, rfl, hstands _ _ List.mem_cons_self,
    hstands _ _ (List.mem_cons_of_mem _ List.mem_cons_self)⟩

/-- Whatever is asked of a link and whatever the host makes of it, once the link is given up nothing
is left behind. -/
theorem nothing_left_behind (config : LinkConfig) (script : Script)
    (operations : List Operation) :
    let life : Sys Unit := do
      let l ← live operations (new config)
      l.discard
    Settled (life.run (ofScript script)).2.taken.1 := by
  have ha := (Accounted.start config script).live operations
  exact ha.discard.settled

end LinkSocket

end PacketLink
