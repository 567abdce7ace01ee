import PacketLink.Host.Basic

/-!
# System calls

* Sockets: `openSocket`, `setNonblocking`, `bind`, `setOption`, `readStatistics`, `sendTo`,
  `receive`, `flush`, `closeSocket`.
* Mappings: `map`, `unmap`, and access to the memory of a mapping.
* Interfaces: `interfaceIndex`, `hardwareAddress`.
* `probe`: whether a descriptor is ready, as a call that looks at it tells.

A call that the script lets fail has no effect, except that unmapping gives the memory back even
then.
-/

namespace PacketLink.Host

/-! ## Memory of mappings -/

/-- The memory of a mapping. -/
def memoryOf (h : Host) (id : MappingId) : SlotMemory :=
  match h.mappings[id.number]? with
  | some mapping => mapping.memory
  | none => ⟨0, #[]⟩

/-- Changes one mapping. -/
def updateMapping (id : MappingId) (change : Mapping → Mapping) : Sys Unit :=
  modify fun h => { h with mappings := h.mappings.modify id.number change }

/-- Changes the memory of a mapping. -/
def updateMemory (id : MappingId) (change : SlotMemory → SlotMemory) : Sys Unit :=
  updateMapping id fun mapping => { mapping with memory := change mapping.memory }

/-- The kernel puts a frame into a slot. -/
def deliver (id : MappingId) (slot : Nat) (d : SlotMemory.Delivery) : Sys Unit :=
  updateMemory id fun m => m.deliver slot d

/-- The mapping in use of a socket for one direction. -/
def activeMapping? (h : Host) (s : SocketId) (direction : RingDirection) : Option MappingId :=
  let place := h.mappings.findIdx? fun mapping =>
    mapping.active && mapping.owner = some s && mapping.direction = direction
  place.map MappingId.mk

/-! ## Sockets -/

/-- The kernel's side of a socket. -/
def socketOf (h : Host) (s : SocketId) : Socket := h.sockets.getD s.number {}

/-- Changes the frames that wait at a socket. -/
def updateQueue (s : SocketId) (change : List Bytes → List Bytes) : Sys Unit :=
  modify fun h => { h with sockets := h.sockets.modify s.number fun k => ⟨change k.queue⟩ }

/-- A frame arrives at a socket. -/
def enqueue (s : SocketId) (frame : Bytes) : Sys Unit := updateQueue s (· ++ [frame])

/-- Makes a socket. -/
def openSocket (family : SocketFamily) : Sys (Outcome SocketId) :=
  attempt .socket (.socket family) do
    let h ← get
    set { h with sockets := h.sockets.push {} }
    pure (.ok ⟨h.sockets.size⟩)

/-- A call that has no effect beside its record. -/
def plainCall (c : Call) (event : Outcome Unit → Event) : Sys (Outcome Unit) :=
  attempt c event (pure (.ok ()))

/-- Makes calls on a socket return at once. -/
def setNonblocking (s : SocketId) : Sys (Outcome Unit) := plainCall .nonblock (.nonblock s)

/-- Frames that arrive at a socket: slot after slot of its ring, or into its queue. -/
def deliverInbound (s : SocketId) (frames : List SlotMemory.Delivery) : Sys Unit := do
  match activeMapping? (← get) s .receive with
  | some id => updateMemory id fun m => (frames.zipIdx).foldl (fun m (d, i) => m.deliver i d) m
  | none => updateQueue s (· ++ frames.map (·.data))

/-- Binds a socket. One that is bound to every protocol gets the frames of the script. -/
def bind (s : SocketId) (address : LinkAddress) : Sys (Outcome Unit) :=
  attempt .bind (.bind s address) do
    if address.protocol = LinkAddress.allProtocols then
      deliverInbound s (← get).script.inbound
    pure (.ok ())

/-- Sets an option of the packet layer. -/
def setOption (s : SocketId) (option : Nat) (value : Bytes) : Sys (Outcome Unit) :=
  plainCall .setOption (.setOption s option value)

/-- Reads the counters of received and dropped packets. -/
def readStatistics (s : SocketId) : Sys (Outcome (Nat × Nat)) :=
  attempt .getOption (fun outcome => .statistics s (outcome.map fun _ => ())) do
    pure (.ok (← get).script.statistics)

/-- Sends a frame and tells how many of its bytes were accepted. -/
def sendTo (s : SocketId) (frame : Bytes) (address : LinkAddress) : Sys (Outcome Nat) := do
  let n := (← get).countOf .sendTo
  attempt .sendTo (.sendTo s frame address) do
    pure (.ok ((← get).script.accepted.getD n frame.length))

/-- The frames arrive that come with the next look at a socket. A ring has had all its frames. -/
def arrive (s : SocketId) : Sys Unit := do
  let h ← get
  match h.activeMapping? s .receive with
  | some _ => pure ()
  | none => updateQueue s (· ++ h.script.arrivals.getD (h.countOf .poll) [])

/-- Takes the next frame of a socket, cut to `length` bytes, with its length on the wire. -/
def receive (s : SocketId) (length : Nat) : Sys (Outcome (Bytes × Nat)) :=
  attempt .receive (fun outcome => .receive s length (outcome.map Prod.snd)) do
    match ((← get).socketOf s).queue with
    | [] => pure (.error .wouldBlock)
    | frame :: rest =>
      updateQueue s fun _ => rest
      pure (.ok (frame.take length, frame.length))

/-- Closes a socket. -/
def closeSocket (s : SocketId) : Sys (Outcome Unit) := plainCall .close (.close s)

/-! ## Sending from rings -/

/-- The kernel takes frames from a ring, up to `steps` of them, as long as it is asked to. -/
def transmitFrom (s : SocketId) (id : MappingId) : Nat → Sys Unit
  | 0 => pure ()
  | steps + 1 => do
    let h ← get
    match h.mappings[id.number]? with
    | none => pure ()
    | some mapping =>
      let slot := mapping.nextSend
      let m := mapping.memory
      if SlotMemory.isSendRequest (m.status slot) then
        let left := h.script.sentStatus.getD h.ringFrames SlotMemory.free
        record (.transmit s slot (m.queued slot))
        modify fun h => { h with ringFrames := h.ringFrames + 1 }
        updateMapping id fun mapping =>
          { mapping with
            memory := mapping.memory.setStatus slot left
            nextSend := (slot + 1) % m.count }
        if SlotMemory.isSendRequest left then pure () else transmitFrom s id steps
      else pure ()

/-- Asks the kernel to send what waits in the ring of a socket. -/
def flush (s : SocketId) : Sys (Outcome Unit) := do
  match ← plainCall .send (.flush s) with
  | .error e => pure (.error e)
  | .ok () =>
    let h ← get
    match h.activeMapping? s .send with
    | some id => transmitFrom s id (h.memoryOf id).count
    | none => pure ()
    pure (.ok ())

/-! ## Mappings -/

/-- Whether so many bytes are more than one mapping can have. -/
def Script.isTooLarge (script : Script) (length : Nat) : Bool :=
  script.mappingLimit.any fun limit => limit < length

/-- Maps `count` zeroed slots of one page each, of a socket or of no socket. -/
def map (owner : Option SocketId) (direction : RingDirection) (count : Nat) :
    Sys (Outcome MappingId) := do
  let host ← get
  let size := host.pageSize
  attempt .map (fun outcome => .map owner (size * count) (outcome.map fun _ => ())) do
    if host.script.isTooLarge (size * count) then pure (.error .outOfMemory)
    else
      let h ← get
      set { h with
        mappings := h.mappings.push
          { owner, direction, memory := .zeroed count size, active := true, nextSend := 0 } }
      pure (.ok ⟨h.mappings.size⟩)

/-- Gives a mapping back. -/
def unmap (id : MappingId) (owner : Option SocketId) (length : Nat) : Sys (Outcome Unit) := do
  updateMapping id fun mapping => { mapping with active := false }
  plainCall .unmap (.unmap owner length)

/-! ## Interfaces -/

/-- The interface of a name. -/
def findInterface (h : Host) (name : String) : Option Interface :=
  h.script.interfaces.find? fun i => i.name = name

/-- The number of the interface of a name. -/
def interfaceIndex (name : String) : Sys (Outcome Nat) :=
  attempt .interfaceIndex (.interfaceIndex name) do
    match (← get).findInterface name with
    | some i => pure (.ok i.index)
    | none => pure (.error .noSuchDevice)

/-- The hardware address of the interface of a name. -/
def hardwareAddress (s : SocketId) (name : String) : Sys (Outcome MacAddr) :=
  attempt .control
    (fun outcome => .hardwareAddress s name (outcome.map fun _ => ())) do
    match (← get).findInterface name with
    | some i => pure (.ok i.mac)
    | none => pure (.error .noSuchDevice)

/-! ## Readiness -/

/-- Whether there is something to receive at a socket. -/
def isReadable (h : Host) (s : SocketId) : Bool :=
  match h.activeMapping? s .receive with
  | some id =>
    let m := h.memoryOf id
    (List.range m.count).any fun i => SlotMemory.isUser (m.status i)
  | none => !(h.socketOf s).queue.isEmpty

/-- Whether a socket has room for something to send. -/
def isWritable (h : Host) (s : SocketId) : Bool :=
  match h.activeMapping? s .send with
  | some id =>
    let m := h.memoryOf id
    (List.range m.count).any fun i => m.status i = SlotMemory.free
  | none => true

/-- The event that a probe reports for a descriptor that is not open. -/
def invalidEvent : Nat := 5

/-- Looks at a descriptor of the given readiness. An interrupted look counts as ready, and so does
any event that a script reports, except that the descriptor is not open. -/
def probe (level : Host → Bool) : Sys (Outcome Bool) := do
  let code ← enter .poll
  if code = 0 then pure (.ok (level (← get)))
  else if 0 < code then
    let e : Errno := ⟨code.toNat⟩
    pure (if e = .interrupted then .ok true else .error e)
  else if (-code).toNat.testBit invalidEvent then pure (.error .badDescriptor)
  else pure (.ok true)

end PacketLink.Host
