import CloudLens.Cost.Aggregates
import CloudLens.Cost.Isolation
import CloudLens.Statements.Finalised
import CloudLens.Statements.Restatement
import CloudLens.Statements.Acceptance
import CloudLens.Statements.Disputes
import CloudLens.Workflows.Quorum
import CloudLens.Workflows.Concurrency
import CloudLens.Attribution.Visibility
import CloudLens.Attribution.Curation
import CloudLens.Pricing.History
import CloudLens.Cost.Accuracy
import CloudLens.Cost.Trust
import CloudLens.Access.Filter
import CloudLens.Dependency.Exactness
import CloudLens.Dependency.Rediscovery
import CloudLens.Topology.PointInTime
import CloudLens.Topology.EdgeOrder
import CloudLens.Topology.Portfolio
import CloudLens.Topology.Billing
import CloudLens.Topology.Disclosure
import CloudLens.Thresholds.Alerts
import CloudLens.Audit.Forks
import CloudLens.Budgets.Ceilings
import CloudLens.MasterData.History
import CloudLens.Connectors.Health
import CloudLens.Connectors.Resumption
import CloudLens.Sync.Idempotency
import CloudLens.Sync.Completeness
import CloudLens.BulkImport.Rollback
import CloudLens.Identity.Rotation
import CloudLens.Remediation.Closure
import CloudLens.Remediation.Savings
import CloudLens.Remediation.Deferral
import CloudLens.Commitments.Reports
import CloudLens.Hierarchy.Visibility
import CloudLens.Attribution.Splits
import CloudLens.Cost.Reingestion
import CloudLens.Overrides.Endings
import CloudLens.Statements.Breakdowns
import CloudLens.Workflows.Deadlines
import CloudLens.Workflows.History
import CloudLens.Pricing.Monotone
import CloudLens.Pricing.Itemised
import CloudLens.Thresholds.Precedence
import CloudLens.Audit.Cef
import CloudLens.Budgets.Evaluator
import CloudLens.MasterData.Currency
import CloudLens.Alerting.AutoResolution
import CloudLens.Alerting.Entitlement
import CloudLens.Connectors.Quota
import CloudLens.Topology.Quotient
import CloudLens.Connectors.Slots
import CloudLens.Decommissioning.Batches
import CloudLens.Config.Promotion
import CloudLens.Runtime.ExpectedHours
import CloudLens.Hierarchy.Consumers
import CloudLens.BulkImport.References
import CloudLens.Observability.Redaction
