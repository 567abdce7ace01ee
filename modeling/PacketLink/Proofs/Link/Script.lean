import PacketLink.Link.Socket
import PacketLink.Proofs.Host.Script

/-!
# What a link does not change about the kernel

No operation of a link changes how the kernel behaves. One lemma for each step from those of the
calls that it makes; those of the operations are last.
-/

namespace PacketLink

open Host

/-! ## Sockets, interfaces and rings -/

theorem PacketSocket.discard_script (s : PacketSocket) : Keeps script s.discard :=
  (closeSocket_script s.id).bind fun _ => .pure _

theorem PacketSocket.open?_script : Keeps script PacketSocket.open? := by
  refine (openSocket_script _).bind fun outcome => ?_
  cases outcome with
  | error e => exact .pure _
  | ok id =>
    refine (setNonblocking_script id).bind fun outcome => ?_
    cases outcome with
    | error e => exact (discard_script _).bind fun _ => .pure _
    | ok => exact .pure _

theorem Resolver.hardwareAddress_script (name : String) : Keeps script (hardwareAddress name) := by
  refine (openSocket_script _).bind fun outcome => ?_
  cases outcome with
  | error e => exact .pure _
  | ok s =>
    exact (Host.hardwareAddress_script s name).bind fun _ =>
      (closeSocket_script s).bind fun _ => .pure _

theorem Resolver.resolve_script (resolver : Resolver) (name : String) :
    Keeps script (resolver.resolve name) := by
  cases resolver with
  | system =>
    unfold resolve askSystem
    dsimp only
    split
    · exact .pure _
    · refine (interfaceIndex_script name).bind fun outcome => ?_
      obtain e | _ | index := outcome
      · exact .pure _
      · exact .pure _
      · refine (hardwareAddress_script name).bind fun outcome => ?_
        cases outcome with
        | error e => exact .pure _
        | ok mac => exact .pure _
  | fixed interface => exact .pure _
  | failing cause => exact .pure _

theorem Ring.mapSlots_script (socket : Option PacketSocket) (d : RingDirection) (capacity : Nat) :
    Keeps script (mapSlots socket d capacity) := by
  refine Keeps.get.bind fun h => (map_script _ _ _).bind fun outcome => ?_
  cases outcome with
  | error e => exact .pure _
  | ok mapping => exact .pure _

theorem Ring.open?_script (s : PacketSocket) (d : RingDirection) (frames : Nat) :
    Keeps script (Ring.open? s d frames) := by
  unfold Ring.open?
  split
  · exact .pure _
  · refine Keeps.get.bind fun h => ?_
    dsimp only
    refine (setOption_script _ _ _).bind fun outcome => ?_
    obtain e | ⟨⟨⟩⟩ := outcome
    · exact .pure _
    · refine (setOption_script _ _ _).bind fun outcome => ?_
      obtain e | ⟨⟨⟩⟩ := outcome
      · exact .pure _
      · exact mapSlots_script _ _ _

namespace LinkSocket

/-! ## Operations -/

theorem openTransport_script (config : LinkConfig) : Keeps script (openTransport config) := by
  refine PacketSocket.open?_script.bind fun outcome => ?_
  cases outcome with
  | error e => exact .pure _
  | ok first =>
    dsimp only
    split
    · refine PacketSocket.open?_script.bind fun outcome => ?_
      cases outcome with
      | error e => exact first.discard_script.bind fun _ => .pure _
      | ok second => exact .pure _
    · exact .pure _

theorem openDescriptors_script (l : LinkSocket) (resolver : Resolver) :
    Keeps script (l.openDescriptors resolver) := by
  refine (resolver.resolve_script _).bind fun outcome => ?_
  cases outcome with
  | error e => exact .pure _
  | ok interface =>
    refine (openTransport_script _).bind fun outcome => ?_
    cases outcome with
    | error e => exact .pure _
    | ok transport => exact (report_script _).bind fun _ => .pure _

theorem settle_script (l : LinkSocket) (operation : String) (next : LinkState)
    (outcome : Except LinkError Unit) : Keeps script (l.settle operation next outcome) := by
  cases outcome with
  | ok => exact .pure _
  | error e => exact (report_script _).bind fun _ => .pure _

theorem open_script (l : LinkSocket) (resolver : Resolver) : Keeps script (l.open resolver) := by
  unfold LinkSocket.open
  split
  · exact .pure _
  · refine (openDescriptors_script l resolver).bind fun opened => ?_
    exact settle_script _ _ _ _

theorem bindSocket_script (s : PacketSocket) (interfaceIndex protocol : Nat) :
    Keeps script (bindSocket s interfaceIndex protocol) := by
  refine (Host.bind_script s.id _).bind fun outcome => ?_
  cases outcome <;> exact .pure _

theorem bindReceiver_script (s : PacketSocket) (interfaceIndex : Nat) :
    Keeps script (bindReceiver s interfaceIndex) := by
  refine (bindSocket_script _ _ _).bind fun outcome => ?_
  cases outcome with
  | error e => exact .pure _
  | ok =>
    refine (setOption_script s.id _ _).bind fun outcome => ?_
    cases outcome <;> exact .pure _

theorem bindPair_script (config : LinkConfig) (interfaceIndex : Nat) (rx tx : PacketSocket) :
    Keeps script (bindPair config interfaceIndex rx tx) := by
  unfold bindPair
  cases config.role with
  | transmitter =>
    refine (bindSocket_script _ _ _).bind fun outcome => ?_
    cases outcome with
    | error e => exact .pure _
    | ok => exact bindSocket_script _ _ _
  | receiver =>
    refine (bindSocket_script _ _ _).bind fun outcome => ?_
    cases outcome with
    | error e => exact .pure _
    | ok => exact bindReceiver_script _ _

theorem bindRings_script (config : LinkConfig) (interfaceIndex : Nat) (rx tx : PacketSocket) :
    Keeps script (bindRings config interfaceIndex rx tx) := by
  refine (Ring.open?_script _ _ _).bind fun outcome => ?_
  cases outcome with
  | error e => exact .pure _
  | ok rxRing =>
    refine (Ring.open?_script _ _ _).bind fun outcome => ?_
    cases outcome with
    | error e => exact .pure _
    | ok txRing => exact (bindPair_script _ _ _ _).bind fun _ => .pure _

theorem bindDescriptors_script (l : LinkSocket) : Keeps script l.bindDescriptors := by
  unfold bindDescriptors
  split
  · exact .pure _
  · split
    · exact .pure _
    · unfold bindDirect
      cases l.config.role with
      | transmitter => exact (bindSocket_script _ _ _).bind fun _ => .pure _
      | receiver => exact (bindReceiver_script _ _).bind fun _ => .pure _
    · exact (bindRings_script _ _ _ _).bind fun _ => .pure _

theorem bind_script (l : LinkSocket) : Keeps script l.bind := by
  unfold LinkSocket.bind
  split
  · exact .pure _
  · exact (bindDescriptors_script l).bind fun _ => settle_script _ _ _ _

theorem move_script (l : LinkSocket) (operation : String) (allowed : List LinkState)
    (next : LinkState) (message : String) :
    Keeps script (l.move operation allowed next message) := by
  unfold LinkSocket.move
  split
  · exact .pure _
  · exact (report_script _).bind fun _ => .pure _

end LinkSocket

end PacketLink
