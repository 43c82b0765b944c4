import ReverseDns.Main
import ReverseDns.Service.Memory
import ReverseDns.Service.Scripted
import ReverseDns.Proofs.Runs
import ReverseDns.Proofs.Operations
import ReverseDns.Proofs.Answers
import ReverseDns.Proofs.Slashes
import ReverseDns.Proofs.RecordIds
import ReverseDns.Proofs.Acceptance
import ReverseDns.Proofs.RecordSets
import ReverseDns.Proofs.Paths
import ReverseDns.Proofs.Saving
import ReverseDns.Proofs.Commands
import ReverseDns.Proofs.FailedImports
import ReverseDns.Proofs.EtagProvenance
import ReverseDns.Proofs.Tracking
import ReverseDns.Proofs.Settings
import ReverseDns.Proofs.Convergence
import ReverseDns.Proofs.Versions
import ReverseDns.Proofs.SharedMemory
import ReverseDns.Proofs.Tracing
import ReverseDns.Proofs.SimilarRuns
import ReverseDns.Proofs.ServiceAgreement
import ReverseDns.Proofs.Synchrony
import ReverseDns.Proofs.Rounding
import ReverseDns.Proofs.Doubles
import ReverseDns.Proofs.Shortest
import ReverseDns.Proofs.NumberTexts
import ReverseDns.Proofs.WideTexts
import ReverseDns.Proofs.MemberOrder
import ReverseDns.Proofs.JsonTexts
import ReverseDns.Proofs.Snapshots
import ReverseDns.Proofs.Recovery
import ReverseDns.Proofs.CredentialLifetime
import ReverseDns.Proofs.Monitors
import ReverseDns.Proofs.CallOrder
import ReverseDns.Proofs.RunLogging
import ReverseDns.Proofs.Reloading
import ReverseDns.Proofs.Deliveries
import ReverseDns.Proofs.WriteOutcomes
import ReverseDns.Proofs.WriteThrough
import ReverseDns.Proofs.CreateAndRead
import ReverseDns.Proofs.IdGrammar
import ReverseDns.Proofs.CanonicalIds
import ReverseDns.Proofs.Replacement
import ReverseDns.Proofs.RecordKeys
import ReverseDns.Proofs.Catalog
import ReverseDns.Proofs.CanonicalHostnames
import ReverseDns.Proofs.DoubleOrder
import ReverseDns.Proofs.DoubleSums
import ReverseDns.Proofs.Descriptions
import ReverseDns.Proofs.Deletions
import ReverseDns.Proofs.CredentialReuse
import ReverseDns.Proofs.Configurations
import ReverseDns.Proofs.StatusTexts
import ReverseDns.Proofs.FailedCalls
import ReverseDns.Proofs.Verdicts
import ReverseDns.Proofs.Discards
