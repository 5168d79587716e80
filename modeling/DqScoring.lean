import DqScoring.Auth.LoginLockout
import DqScoring.Auth.TokenFamilies
import DqScoring.Common.CanonicalRoundTrip
import DqScoring.Common.FormulaSanitizer
import DqScoring.Common.JsonIdentity
import DqScoring.Common.ScanErrors
import DqScoring.Common.StructuredErrors
import DqScoring.Compute.AcceptedTerms
import DqScoring.Compute.Containment
import DqScoring.Compute.Evidence
import DqScoring.Compute.JsonFieldLabels
import DqScoring.Compute.SpellingCaches
import DqScoring.Frontend.Client
import DqScoring.Frontend.FormAcceptance
import DqScoring.Frontend.Transfer
import DqScoring.Governance.FourEyes
import DqScoring.Imports.DaemonLease
import DqScoring.Imports.ImportedRows
import DqScoring.Imports.Parts
import DqScoring.Imports.PreviewPrivacy
import DqScoring.Imports.RetryBudget
import DqScoring.Presentation.Pagination
import DqScoring.Presentation.TemplatePackCli
import DqScoring.Privacy.DecisionHistory
import DqScoring.Privacy.FailClosed
import DqScoring.Privacy.FindingDecisions
import DqScoring.Privacy.LatestScan
import DqScoring.Privacy.MaskedExport
import DqScoring.Privacy.RuleConfiguration
import DqScoring.Privacy.ScanOutcomes
import DqScoring.Privacy.ScanSummary
import DqScoring.Queue.InMemoryQueue
import DqScoring.Queue.RunAdmission
import DqScoring.Queue.RunTrigger
import DqScoring.Services.AdvisoryIsolation
import DqScoring.Services.EvaluationOrchestrator
import DqScoring.Services.GateAgreement
import DqScoring.Services.Improvement
import DqScoring.Services.RecordedWeights
import DqScoring.Services.RuleRecommendations
import DqScoring.Services.ReplayRunner
import DqScoring.Services.ScoreBounds
import DqScoring.Services.TemplateBindings
import DqScoring.Services.TemplateRevisions
import DqScoring.Services.ViolationCounts
import DqScoring.Store.EvidenceBudget
import DqScoring.Store.Migrations
import DqScoring.Store.RoundTrip
import DqScoring.Store.StoredResults
import DqScoring.Storage.SnapshotReads
