import Conformance.Aggregation
import Conformance.Audit
import Conformance.Audit.Form
import Conformance.Binary64
import Conformance.Binary64.Shortest
import Conformance.Blake3
import Conformance.ChangeReport
import Conformance.ChangeReport.Analysis
import Conformance.ChangeReport.Form
import Conformance.Config
import Conformance.Error
import Conformance.Fingerprint
import Conformance.Journal
import Conformance.Journal.Engine
import Conformance.Journal.Loading
import Conformance.Journal.Session
import Conformance.Json
import Conformance.Json.Form
import Conformance.Json.Numeral
import Conformance.Json.Parser
import Conformance.Json.Printer
import Conformance.KeyedMap
import Conformance.Lifecycle
import Conformance.Loading
import Conformance.Loading.Audit
import Conformance.Loading.RuleFile
import Conformance.Loading.Sample
import Conformance.Notice
import Conformance.Problem
import Conformance.Problem.Group
import Conformance.Problem.Resolution
import Conformance.Proofs.ChangeAspects
import Conformance.Proofs.ContentIdentity
import Conformance.Proofs.CosmeticEdits
import Conformance.Proofs.Counting
import Conformance.Proofs.DeclaredIds
import Conformance.Proofs.DefinitionWarnings
import Conformance.Proofs.EditCommit
import Conformance.Proofs.EditImpact
import Conformance.Proofs.FingerprintContent
import Conformance.Proofs.KeyAlignment
import Conformance.Proofs.KeyRenaming
import Conformance.Proofs.KeyedMap
import Conformance.Proofs.LenientLoading
import Conformance.Proofs.LifecycleRefinement
import Conformance.Proofs.ListedCollections
import Conformance.Proofs.LoadedKeys
import Conformance.Proofs.Operation
import Conformance.Proofs.Prediction
import Conformance.Proofs.ProblemGroups
import Conformance.Proofs.ProblemScan
import Conformance.Proofs.Quoting
import Conformance.Proofs.RecordedData
import Conformance.Proofs.Reloading
import Conformance.Proofs.ReportBinding
import Conformance.Proofs.ReportPartition
import Conformance.Proofs.Resolution
import Conformance.Proofs.ReviewCounts
import Conformance.Proofs.ReviewFlags
import Conformance.Proofs.RollUp
import Conformance.Proofs.RuleFileUpdate
import Conformance.Proofs.SampleIds
import Conformance.Proofs.SavedAudit
import Conformance.Proofs.SavedConfig
import Conformance.Proofs.SavedRuleFile
import Conformance.Proofs.ScanPlaces
import Conformance.Proofs.ScopeAgreement
import Conformance.Proofs.Sections
import Conformance.Proofs.SelectionOrder
import Conformance.Proofs.StatusConsistency
import Conformance.Proofs.StatusOrder
import Conformance.Proofs.StatusRules
import Conformance.Proofs.StatusTime
import Conformance.Proofs.StrictReading
import Conformance.Proofs.SummaryLevels
import Conformance.Proofs.Text
import Conformance.Proofs.TimestampText
import Conformance.Proofs.UniqueKeys
import Conformance.Proofs.UnrecordedResults
import Conformance.Proofs.UpdateChain
import Conformance.Proofs.UpdateFixpoint
import Conformance.Proofs.UpdateRefusal
import Conformance.Proofs.Validity
import Conformance.Proofs.WritingBack
import Conformance.Recording
import Conformance.Relevance
import Conformance.Result
import Conformance.Result.Form
import Conformance.RuleFile
import Conformance.RuleFile.Form
import Conformance.RuleFile.Update
import Conformance.Sample
import Conformance.Sample.Form
import Conformance.Sample.Impact
import Conformance.Session
import Conformance.Statistics
import Conformance.Status
import Conformance.Text
import Conformance.Text.Digits
import Conformance.Text.Printable
import Conformance.Text.Quoted
import Conformance.Timestamp
import Conformance.Timestamp.Text
import Conformance.Toml
import Conformance.Toml.Parser
import Conformance.Toml.Printer
import Conformance.Toml.Quoted
import Conformance.Toml.Scalar
import Conformance.Version
import Conformance.Warning
