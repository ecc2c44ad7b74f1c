import SocTriage.Tables
import SocTriage.Datetime
import SocTriage.Json
import SocTriage.Runs
import SocTriage.Canonical
import SocTriage.Lifecycle
import SocTriage.Deduplication
import SocTriage.EventIdentity
import SocTriage.Audit
import SocTriage.Database
import SocTriage.PersistentDeduplication
import SocTriage.Assessment
import SocTriage.DedupeRefinement
import SocTriage.DedupeHistory
import SocTriage.Evidence
import SocTriage.Correlation
import SocTriage.CorrelationInvariants
import SocTriage.Components
import SocTriage.CorrelationComponents
import SocTriage.IncidentCallers
import SocTriage.IncidentRuns
import SocTriage.IncidentAudit
import SocTriage.IncidentRace
import SocTriage.OpenIncidentRace
import SocTriage.IncidentLinks
import SocTriage.Ingest
import SocTriage.Enrichment
import SocTriage.LateEnrichment
import SocTriage.FailedLookups
import SocTriage.AutoClose
import SocTriage.IdleClock
import SocTriage.Sequences
import SocTriage.ContextHistory
import SocTriage.Backlog
import SocTriage.AssessmentChain
import SocTriage.TheHive
import SocTriage.CaseExport
import SocTriage.IncidentExport
import SocTriage.OneCase
import SocTriage.ExportObservables
import SocTriage.Integrator
import SocTriage.SpoolAccounting
import SocTriage.Policies
import SocTriage.Scoring
import SocTriage.Scorability
import SocTriage.Decisions
import SocTriage.UnchangedEnrichment
import SocTriage.ScoreBounds
import SocTriage.RecurrenceOrder
import SocTriage.Notifications
import SocTriage.Service
import SocTriage.DuplicateDelivery
import SocTriage.LateReassessment
import SocTriage.Allowance
import SocTriage.RateLimit
import SocTriage.TokenCalls
import SocTriage.SpoolOrder
import SocTriage.Patterns
import SocTriage.Normalize
import SocTriage.UrlUserinfo
import SocTriage.JsonText
import SocTriage.UrlSplit
import SocTriage.IntegratorRun
import SocTriage.IntegratorExit
import SocTriage.Scanning
import SocTriage.Extractor
import SocTriage.CredentialScan
import SocTriage.Durable
import SocTriage.IncidentMigration
import SocTriage.MigrationRecovery
import SocTriage.SharedEvidence
import SocTriage.IntelEvidence
import SocTriage.ChainOrder
import SocTriage.CacheReplay
import SocTriage.CacheBound
import SocTriage.LookupIsolation
import SocTriage.Trimming
import SocTriage.DomainPattern
import SocTriage.NormalForms
import SocTriage.DottedQuad
import SocTriage.UrlForms
import SocTriage.PythonRepr
import SocTriage.N8NPayload
import SocTriage.PayloadSafety
import SocTriage.Extraction
import SocTriage.MergedIndicators
import SocTriage.SanitizedIntel
import SocTriage.IntelCaps
import SocTriage.IndicatorOrder
import SocTriage.MissingSeverity
import SocTriage.N8NClient
import SocTriage.BurstScore
import SocTriage.DeliveryLog
import SocTriage.AlertListing
import SocTriage.Explanation
import SocTriage.ContentVariants
import SocTriage.SweepAccounting
import SocTriage.Redaction
import SocTriage.Allowlists
import SocTriage.Assets
import SocTriage.AsyncLock
import SocTriage.ExportLock
import SocTriage.References
import SocTriage.Permanence
import SocTriage.Listings
import SocTriage.JsonDump
import SocTriage.JsonRoundTrip
import SocTriage.Growth
import SocTriage.Tallies
import SocTriage.Stats
import SocTriage.Attestation
import SocTriage.CaseDesk
import SocTriage.Chronology
import SocTriage.ContextDetail
import SocTriage.CreationRecords
import SocTriage.ExplainedLinks
import SocTriage.ExplanationSections
import SocTriage.IncidentRead
import SocTriage.Timelines
