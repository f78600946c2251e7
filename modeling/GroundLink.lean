import GroundLink.Main
import GroundLink.Proofs.Address.Bind
import GroundLink.Proofs.Address.RoundTrip
import GroundLink.Proofs.Channel.Backlog
import GroundLink.Proofs.Channel.Contention
import GroundLink.Proofs.Link.Draining
import GroundLink.Proofs.Link.Eviction
import GroundLink.Proofs.Link.FailsafeLaw
import GroundLink.Proofs.Link.Hearing
import GroundLink.Proofs.Link.Hooks
import GroundLink.Proofs.Link.Neighbours
import GroundLink.Proofs.Link.Outside
import GroundLink.Proofs.Link.WritePath
import GroundLink.Proofs.Port.Exchange
import GroundLink.Proofs.Presence.Sighting
import GroundLink.Proofs.Station.Accounting
import GroundLink.Proofs.Station.Bounds
import GroundLink.Proofs.Station.Conservation
import GroundLink.Proofs.Wire.Acceptance
import GroundLink.Proofs.Wire.Corruption
import GroundLink.Proofs.Wire.Resynchronisation
import GroundLink.Proofs.Wire.Segmentation
