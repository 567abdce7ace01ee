import PacketLink.Link.Describe
import PacketLink.Main
import PacketLink.Proofs.CommandLine.Sap
import PacketLink.Proofs.Config.Conditions
import PacketLink.Proofs.Config.Truncation
import PacketLink.Proofs.Frame.Description
import PacketLink.Proofs.Link.Closing
import PacketLink.Proofs.Link.Disposal
import PacketLink.Proofs.Reactor.Conclusion
import PacketLink.Proofs.Ring.Accesses
import PacketLink.Proofs.Ring.Claiming
import PacketLink.Proofs.Ring.Observation
import PacketLink.Proofs.Ring.Ownership
import PacketLink.Proofs.Ring.Reception
import PacketLink.Proofs.Ring.Tokens
import PacketLink.Proofs.Ring.Transmission
import PacketLink.Proofs.Session.Outcome
import PacketLink.Proofs.Session.Sendable
import PacketLink.Proofs.Session.Signals
import PacketLink.Proofs.Text.Address
import PacketLink.Proofs.Traffic.Agreement
import PacketLink.Proofs.Traffic.Counting
import PacketLink.Proofs.Traffic.DeadSocket
import PacketLink.Proofs.Traffic.Oversized
import PacketLink.Proofs.Traffic.Pacing
import PacketLink.Proofs.Traffic.Passage
