import PacketLink.Proofs.Link.Lifecycle
import PacketLink.Proofs.Link.Script
import PacketLink.Proofs.Ring.Operations

/-!
# The ring that a link sends through

* `Transport.SendsIn n`: a ring to send through, if there is one, is made for sending and has slots
  of `n` bytes.
* Opening and binding a link on a host leaves it so for the page size of the host (`open_sendsIn`,
  `bind_sendsIn`), because no step of opening changes how the host behaves (`open_script`).
* `worker?_transmitter`: what the worker of a transmitting link sends, and through what.
-/

namespace PacketLink

open Host

/-- A ring to send through, if there is one, is made for sending and has slots of `n` bytes. -/
def Transport.SendsIn (n : Nat) : Transport → Prop
  | .rings _ (some r) _ _ => r.direction = .send ∧ r.slotSize = n
  | .unopened | .direct _ | .rings _ none _ _ => True

/-- The ring of a socket has slots of a page. -/
theorem Ring.open?_slotSize {s : PacketSocket} {d : RingDirection} {frames : Nat} {r : Ring}
    {h h' : Host} (hr : (Ring.open? s d frames).run h = (.ok r, h')) :
    r.direction = d ∧ r.slotSize = h.pageSize := by
  obtain ⟨hc, h₁, hrings, hmap⟩ := open?_ok hr
  obtain ⟨-, hd, -, -, hsize⟩ := mapSlots_blank hc hmap
  exact ⟨hd, hsize.trans (pageSize_congr (congrArg Rings.script hrings))⟩

namespace LinkSocket

variable {l : LinkSocket} {n : Nat} {h : Host}

/-! ## Opening and binding -/

theorem settle_transport (l : LinkSocket) (operation : String) (next : LinkState)
    (outcome : Except LinkError Unit) (h : Host) :
    ((l.settle operation next outcome).run h).1.2.transport = l.transport := by
  rw [settle_run]

theorem open_sendsIn (hs : l.transport.SendsIn n) (resolver : Resolver) (h : Host) :
    ((l.open resolver).run h).1.2.transport.SendsIn n := by
  unfold LinkSocket.open
  split
  · exact hs
  · rw [run_bind]
    rcases openDescriptors_run l resolver h with ⟨e, he, -⟩ | ⟨transport, interface, ht, hfor⟩
    · rw [he, settle_transport]
      exact hs
    · rw [ht, settle_transport]
      -- No ring is mapped yet.
      obtain _ | s | ⟨rxRing, txRing, rx, tx⟩ := transport
      · trivial
      · trivial
      · obtain ⟨-, -, htx⟩ := hfor
        cases txRing with
        | none => trivial
        | some r => cases htx

theorem bindRings_sendsIn (config : LinkConfig) (interfaceIndex : Nat) (rx tx : PacketSocket)
    (h : Host) : ((bindRings config interfaceIndex rx tx).run h).1.2.SendsIn h.pageSize := by
  have hscript := Ring.open?_script rx .receive (config.ringFrames.getD Ring.defaultFrames) h
  rw [bindRings, run_bind]
  generalize (Ring.open? rx .receive _).run h = opened at hscript ⊢
  obtain ⟨outcome, h₁⟩ := opened
  cases outcome with
  | error e => trivial
  | ok rxRing =>
    rw [run_bind]
    generalize htx : (Ring.open? tx .send _).run h₁ = opened
    obtain ⟨outcome, h₂⟩ := opened
    cases outcome with
    | error e => trivial
    | ok txRing =>
      obtain ⟨hd, hsize⟩ := Ring.open?_slotSize htx
      exact ⟨hd, hsize.trans (pageSize_congr hscript)⟩

theorem bindDescriptors_sendsIn (hs : l.transport.SendsIn h.pageSize) :
    (l.bindDescriptors.run h).1.2.transport.SendsIn h.pageSize := by
  unfold bindDescriptors
  split
  · exact hs
  · split
    · exact hs
    · exact hs
    · exact bindRings_sendsIn _ _ _ _ h

theorem bind_sendsIn (hs : l.transport.SendsIn h.pageSize) :
    (l.bind.run h).1.2.transport.SendsIn h.pageSize := by
  unfold LinkSocket.bind
  split
  · exact hs
  · rw [run_bind, settle_transport]
    exact bindDescriptors_sendsIn hs

/-! ## Working -/

/-- A transmitting link that goes through a ring goes through the one for sending. -/
theorem channel?_sendsIn {r : Ring} (hr : l.config.role = .transmitter)
    (hs : l.transport.SendsIn n) (hc : l.channel? = some (.ring r)) :
    r.direction = .send ∧ r.slotSize = n := by
  cases ht : l.transport with
  | unopened => simp [channel?, ht] at hc
  | direct s => simp [channel?, ht] at hc
  | rings rxRing txRing rx tx =>
    simp only [channel?, ht, hr, Option.map_eq_some_iff, Channel.ring.injEq,
      exists_eq_right] at hc
    rw [ht, hc] at hs
    exact hs

/-- A running link that goes through a ring is configured with rings. -/
theorem isSome_ringFrames {r : Ring} (hc : l.Coherent) (hs : l.state = .running)
    (hch : l.channel? = some (.ring r)) : l.config.ringFrames.isSome = true := by
  unfold Coherent at hc
  rw [hs] at hc
  obtain ⟨-, hfor⟩ := hc
  cases ht : l.transport with
  | unopened => simp [channel?, ht] at hch
  | direct s => simp [channel?, ht] at hch
  | rings rxRing txRing rx tx =>
    rw [ht] at hfor
    exact hfor.1

/-- The worker of a transmitting link sends frames of the link's kind through a socket, or through
the ring that the link has for it. -/
theorem worker?_transmitter {traffic : TrafficOptions} {w : Worker}
    (hw : l.worker? traffic = .ok w) (hr : l.config.role = .transmitter)
    (hs : l.transport.SendsIn n) : ∃ interface channel,
      w = .transmitter { channel, plan := l.plan interface traffic } ∧
        l.channel? = some channel ∧
          ∀ r, channel = .ring r → r.direction = .send ∧ r.slotSize = n := by
  unfold worker? at hw
  split at hw
  · cases hw
  · split at hw
    · cases hw
    · cases hw
    · rename_i interface channel _ hchannel
      rw [hr] at hw
      cases hw
      refine ⟨interface, channel, rfl, hchannel, ?_⟩
      rintro r rfl
      exact channel?_sendsIn hr hs hchannel

end LinkSocket

end PacketLink
