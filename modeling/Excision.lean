import Excision.Edit
import Excision.Main
import Excision.Proofs.Command.Show
import Excision.Proofs.Resolver.Nesting
import Excision.Proofs.Resolver.Strategy
import Excision.Proofs.Text.Trim
import Excision.Proofs.Resolver.Outcome
import Excision.Proofs.Command.Document
import Excision.Proofs.Removal.Rounds
import Excision.Proofs.Resolver.Indentation
import Excision.Proofs.Storage.Interleaving
import Excision.Proofs.Resolver.Locality
import Excision.Proofs.Resolver.Comparison
import Excision.Proofs.Document.Session
import Excision.Proofs.Command.Settings
import Excision.Proofs.Job.Elements
import Excision.Proofs.Resolver.Terminators
import Excision.Proofs.Job.Overlay
import Excision.Proofs.Removal.Exact
import Excision.Proofs.Storage.Saving
import Excision.Proofs.Storage.Stale
import Excision.Proofs.Resolver.Events
import Excision.Proofs.Job.Format
import Excision.Proofs.Disk.Canonical
