import LiveModels.Http.Router
import LiveModels.Proofs.Cache.Cut
import LiveModels.Proofs.Cache.RoundTrip
import LiveModels.Proofs.Reload.Failure
import LiveModels.Proofs.Reload.Invalidation
import LiveModels.Reload.Channel
import LiveModels.Settings.Basic
import LiveModels.Proofs.Naming.Identifier
import LiveModels.Proofs.Source.Bundle
import LiveModels.Proofs.Source.Emission
import LiveModels.Proofs.Schema.RuntimeType
import LiveModels.Proofs.Reload.Stages
import LiveModels.Proofs.Snapshot.Fingerprint
import LiveModels.Proofs.Reload.Coherence
import LiveModels.Proofs.Reload.Flag
import LiveModels.Proofs.Reload.Versions
import LiveModels.Proofs.Schema.Document
import LiveModels.Proofs.Source.Agreement
import LiveModels.Proofs.Source.Declared
import LiveModels.Proofs.Registry.Emission
import LiveModels.Proofs.Snapshot.Builder
import LiveModels.Proofs.Snapshot.Outcome
import LiveModels.Proofs.Cache.Accounted
import LiveModels.Proofs.Reload.Capture
import LiveModels.Proofs.Reload.History
import LiveModels.Proofs.Reload.Reuse
import LiveModels.Proofs.Reload.Hidden
import LiveModels.Proofs.Source.Skeleton
import LiveModels.Proofs.Reload.Registered
import LiveModels.Proofs.Cache.Refused
import LiveModels.Proofs.Reload.Deadlock
import LiveModels.Proofs.Snapshot.Reordering
import LiveModels.Proofs.Source.Listing
import LiveModels.Proofs.Registry.Bundle
import LiveModels.Proofs.Naming.Fallback
import LiveModels.Proofs.Reload.Restamp
import LiveModels.Proofs.Reload.Names
import LiveModels.Proofs.Reload.Watched
import LiveModels.Proofs.Naming.Sanitizing
import LiveModels.Proofs.Http.Origins
import LiveModels.Proofs.Snapshot.Lookup
import LiveModels.Proofs.Reload.Limit
import LiveModels.Proofs.Source.Literal
