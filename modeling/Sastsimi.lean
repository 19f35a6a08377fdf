import Sastsimi.Runtime.Frontier
import Sastsimi.Lib.Ranking
import Sastsimi.Runtime.Termination
import Sastsimi.Runtime.Attempt
import Sastsimi.Lib.Paging
import Sastsimi.Runtime.Catalogue
import Sastsimi.Runtime.Confinement
import Sastsimi.Runtime.Completion
import Sastsimi.Runtime.Listing
import Sastsimi.Runtime.SurfaceProgress
import Sastsimi.Runtime.SurfaceLineage
import Sastsimi.Runtime.GateRevision
import Sastsimi.Lib.Transaction
import Sastsimi.Runtime.CandidateBatch
import Sastsimi.Lib.Dedup
import Sastsimi.Lib.Json
import Sastsimi.Lib.Raising
import Sastsimi.Static.Coverage
import Sastsimi.Static.Accounting
import Sastsimi.Storage.Contracts
import Sastsimi.Storage.RecordStore
import Sastsimi.Storage.Actions
import Sastsimi.Storage.BudgetConserved
import Sastsimi.Runtime.RegistrationSpec
import Sastsimi.Runtime.BatchOutcome
import Sastsimi.Runtime.Replay
import Sastsimi.Lib.PairCover
import Sastsimi.Chaining.Pool
import Sastsimi.Chaining.PairCoverage
import Sastsimi.Lib.JsonText
import Sastsimi.Pages.SourcePage
import Sastsimi.Pages.Lossless
import Sastsimi.Lib.Table
import Sastsimi.Ledger.Calls
import Sastsimi.Ledger.Cleanup
import Sastsimi.Ledger.CallSafety
import Sastsimi.Ledger.Usage
import Sastsimi.Storage.VerificationCeilings
import Sastsimi.Storage.Dispatch
import Sastsimi.Lib.Closure
import Sastsimi.Runtime.WithdrawnClosure
import Sastsimi.Runtime.HoldOnce
import Sastsimi.Storage.RegistrationScope
import Sastsimi.Lib.JsonEncoding
import Sastsimi.Reporting.Locations
import Sastsimi.Reporting.LocationView
import Sastsimi.Lib.JsonForms
import Sastsimi.Lib.JsonUnique
import Sastsimi.Candidates.Normalize
import Sastsimi.Candidates.Page
import Sastsimi.Candidates.Identity
import Sastsimi.Lib.JsonTokens
import Sastsimi.Lib.JsonGrammar
import Sastsimi.Lib.ChunkReader
import Sastsimi.Candidates.JsonReader
import Sastsimi.Candidates.RawRows
import Sastsimi.Candidates.TargetRows
import Sastsimi.Hypotheses.Contracts
import Sastsimi.Hypotheses.Growth
import Sastsimi.Hypotheses.ProposalCommits
import Sastsimi.Hypotheses.ProposalOnce
import Sastsimi.Lib.Recency
import Sastsimi.Static.ScanAttempts
import Sastsimi.Lib.Grouping
import Sastsimi.Candidates.Batches
import Sastsimi.Candidates.BatchPacking
import Sastsimi.Reporting.FindingGroups
import Sastsimi.Reporting.GroupPartition
import Sastsimi.Lib.KeyedSort
import Sastsimi.Contracts.CanonicalJson
import Sastsimi.Contracts.CanonicalForm
import Sastsimi.Lib.RoundRobin
import Sastsimi.Static.Candidates
import Sastsimi.Static.CandidateMerge
import Sastsimi.Static.CandidatePreview
import Sastsimi.Discovery.Review
import Sastsimi.Discovery.Validation
import Sastsimi.Discovery.Accounting
import Sastsimi.Discovery.Runs
import Sastsimi.Discovery.Returns
import Sastsimi.Contracts.RedactionPatterns
import Sastsimi.Lib.JsonDecoding
import Sastsimi.Lib.Regex
import Sastsimi.Lib.Packing
import Sastsimi.Surfaces.Contexts
import Sastsimi.Surfaces.Parts
import Sastsimi.Surfaces.Expanded
import Sastsimi.Surfaces.ExpandedParts
import Sastsimi.Contracts.CanonicalLoads
import Sastsimi.Hypotheses.CommitCalls
import Sastsimi.Hypotheses.CommitTransactions
import Sastsimi.Hypotheses.CommitOnce
import Sastsimi.Ledger.RunGate
import Sastsimi.Ledger.GateSafety
import Sastsimi.Storage.ArtifactStore
import Sastsimi.Storage.ArtifactSafety
import Sastsimi.Contracts.PromptRedaction
import Sastsimi.Contracts.ProviderPrompt
import Sastsimi.Contracts.RedactionLines
import Sastsimi.Contracts.RedactionSecrets
