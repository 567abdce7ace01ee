import PacketLink.Proofs.Host.Rings

/-!
# How the kernel behaves

No call changes the script of the kernel, and so the page size stays what it is. One lemma for each
call that setting up a link makes, all of them from `attempt_script`.
-/

namespace PacketLink.Host

variable {α : Type}

theorem attempt_script {c : Call} {event : Outcome α → Event} {effect : Sys (Outcome α)}
    (hx : Keeps script effect) : Keeps script (attempt c event effect) :=
  .attempt (fun _ => rfl) (fun _ _ => rfl) hx

theorem report_script (e : Log.Entry) : Keeps script (report e) := fun _ => rfl

theorem openSocket_script (family : SocketFamily) : Keeps script (openSocket family) :=
  attempt_script fun _ => rfl

theorem setNonblocking_script (s : SocketId) : Keeps script (setNonblocking s) :=
  attempt_script (.pure _)

theorem deliverInbound_script (s : SocketId) (frames : List SlotMemory.Delivery) :
    Keeps script (deliverInbound s frames) := by
  refine Keeps.get.bind fun h => ?_
  split
  · exact .modify fun _ => rfl
  · exact .modify fun _ => rfl

theorem bind_script (s : SocketId) (address : LinkAddress) : Keeps script (bind s address) := by
  refine attempt_script ?_
  split
  · exact Keeps.get.bind fun h => (deliverInbound_script s _).bind fun _ => .pure _
  · exact .pure _

theorem setOption_script (s : SocketId) (option : Nat) (value : Bytes) :
    Keeps script (setOption s option value) := attempt_script (.pure _)

theorem closeSocket_script (s : SocketId) : Keeps script (closeSocket s) :=
  attempt_script (.pure _)

theorem map_script (owner : Option SocketId) (d : RingDirection) (count : Nat) :
    Keeps script (map owner d count) := by
  refine Keeps.get.bind fun h => attempt_script ?_
  split
  · exact .pure _
  · exact fun _ => rfl

theorem interfaceIndex_script (name : String) : Keeps script (interfaceIndex name) := by
  refine attempt_script (Keeps.get.bind fun h => ?_)
  split
  · exact .pure _
  · exact .pure _

theorem hardwareAddress_script (s : SocketId) (name : String) :
    Keeps script (hardwareAddress s name) := by
  refine attempt_script (Keeps.get.bind fun h => ?_)
  split
  · exact .pure _
  · exact .pure _

end PacketLink.Host
