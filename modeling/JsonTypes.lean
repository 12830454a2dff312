import JsonTypes.Json.Printer
import JsonTypes.Proofs.Graph.Arena
import JsonTypes.Proofs.Graph.Merging
import JsonTypes.Proofs.Json.Forms
import JsonTypes.Proofs.Samples.Canonical
import JsonTypes.Proofs.Samples.DateTimes
import JsonTypes.Proofs.Samples.Strings
import JsonTypes.Proofs.Schema.AddressNames
import JsonTypes.Proofs.Schema.Alone
import JsonTypes.Proofs.Schema.Anchors
import JsonTypes.Proofs.Schema.CanonicalPath
import JsonTypes.Proofs.Schema.Composition
import JsonTypes.Proofs.Schema.Containment
import JsonTypes.Proofs.Schema.NormalForm
import JsonTypes.Proofs.Schema.Pointers
import JsonTypes.Proofs.Schema.Publication
import JsonTypes.Proofs.Schema.Queries
import JsonTypes.Proofs.Schema.Termination
import JsonTypes.Proofs.Session.Fetches
import JsonTypes.Proofs.Session.Identity
import JsonTypes.Proofs.Session.Isolation
import JsonTypes.Proofs.Session.Liveness
import JsonTypes.Proofs.Session.SingleText
import JsonTypes.Proofs.Session.Transparency
