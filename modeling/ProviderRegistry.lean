import ProviderRegistry.Main
import ProviderRegistry.Proofs.Session.LastRound
import ProviderRegistry.Proofs.Session.Rerun
import ProviderRegistry.Proofs.Session.Annotated
import ProviderRegistry.Proofs.Session.Recovery
import ProviderRegistry.Proofs.FileTree.Change
import ProviderRegistry.Proofs.Storage.Directory
import ProviderRegistry.Proofs.Session.Discovery
import ProviderRegistry.Proofs.Registry.Eager
import ProviderRegistry.Proofs.Registry.Lazy
import ProviderRegistry.Proofs.Registry.Modification
import ProviderRegistry.Proofs.Session.Failure
import ProviderRegistry.Proofs.Storage.Agreement
import ProviderRegistry.Proofs.Source.Supertypes
import ProviderRegistry.Proofs.Source.Imports
import ProviderRegistry.Proofs.Listing.NormalForm
import ProviderRegistry.Proofs.Entry.Canonical
import ProviderRegistry.Proofs.Session.Account
import ProviderRegistry.Proofs.Session.Logging
import ProviderRegistry.Proofs.Session.Rewriting
import ProviderRegistry.Proofs.Source.Linearization
import ProviderRegistry.Proofs.Source.Abstract
import ProviderRegistry.Proofs.Source.Matching
import ProviderRegistry.Proofs.Source.Headers
import ProviderRegistry.Proofs.Source.Calls
import ProviderRegistry.Proofs.Source.Climbing
import ProviderRegistry.Proofs.Session.Confined
import ProviderRegistry.Proofs.Source.Decorators
import ProviderRegistry.Proofs.Source.Scan
