import SetterResolution.Proofs.Registry.Provenance
import SetterResolution.Proofs.Resolution.Cover
import SetterResolution.Proofs.Resolution.Setter
import SetterResolution.Session
import SetterResolution.Proofs.Registry.OneTable
import SetterResolution.Proofs.Registry.Independence
import SetterResolution.Proofs.Registry.History
import SetterResolution.Proofs.Snapshot.Reader
import SetterResolution.Proofs.Snapshot.Codec
import SetterResolution.Proofs.Snapshot.Reachable
import SetterResolution.Proofs.Disk
import SetterResolution.Proofs.Session.Dependency
import SetterResolution.Proofs.Session.Files
import SetterResolution.Proofs.Snapshot.Nearest
import SetterResolution.Proofs.Registry.Duplicates
import SetterResolution.Proofs.Resolution.Exact
import SetterResolution.Proofs.Resolution.Wrappers
import SetterResolution.Proofs.Resolution.Order
import SetterResolution.Proofs.Snapshot.Canonical
import SetterResolution.Proofs.Session.Reopen
import SetterResolution.Proofs.Registry.Idempotence
import SetterResolution.Proofs.Resolution.Conversion
import SetterResolution.Proofs.Resolution.Footprint
import SetterResolution.Proofs.Resolution.Growth
import SetterResolution.Proofs.Resolution.Locality
import SetterResolution.Proofs.Hierarchy.Ancestors
import SetterResolution.Proofs.Hierarchy.Methods
import SetterResolution.Proofs.Resolution.Greedy
import SetterResolution.Proofs.Resolution.Cast
import SetterResolution.Proofs.Hierarchy.Subtyping
import SetterResolution.Proofs.Hierarchy.Depth
import SetterResolution.Proofs.Resolution.Narrower
import SetterResolution.Proofs.Resolution.Ties
import SetterResolution.Proofs.Resolution.Usable
import SetterResolution.Proofs.Graph.Discovery
import SetterResolution.Proofs.Graph.LoadOrder
import SetterResolution.Proofs.Hierarchy.Chains
import SetterResolution.Proofs.Registry.Clearing
import SetterResolution.Proofs.Registry.Reported
import SetterResolution.Proofs.Resolution.SetterNames
import SetterResolution.Proofs.Registry.Identity
import SetterResolution.Proofs.Registry.Registration
import SetterResolution.Proofs.Snapshot.Upgrade
import SetterResolution.Proofs.Resolution.Rendering
import SetterResolution.Proofs.HostType
import SetterResolution.Proofs.Resolution.InBounds
import SetterResolution.Proofs.Hierarchy.Search
import SetterResolution.Proofs.Hierarchy.Closure
