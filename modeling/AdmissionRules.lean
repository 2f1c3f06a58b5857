import AdmissionRules.Admission.Webhook
import AdmissionRules.CommandLine.Report
import AdmissionRules.Http.Health
import AdmissionRules.Http.Serving
import AdmissionRules.Main
import AdmissionRules.Proofs.Admission.Accounting
import AdmissionRules.Proofs.Admission.Answer
import AdmissionRules.Proofs.Admission.Subject
import AdmissionRules.Proofs.Admission.Transparency
import AdmissionRules.Proofs.Ascending
import AdmissionRules.Proofs.Binary64.Exact
import AdmissionRules.Proofs.Decision.Relevance
import AdmissionRules.Proofs.Decision.Strictness
import AdmissionRules.Proofs.Decision.Verdict
import AdmissionRules.Proofs.FieldPath.Integer
import AdmissionRules.Proofs.FieldPath.Walk
import AdmissionRules.Proofs.Json.Members
import AdmissionRules.Proofs.Json.Reading
import AdmissionRules.Proofs.Kubernetes.Exchange
import AdmissionRules.Proofs.Metrics.Decisions
import AdmissionRules.Proofs.Policy.CheckAgreement
import AdmissionRules.Proofs.Policy.FirstDefect
import AdmissionRules.Proofs.Policy.Generation
import AdmissionRules.Proofs.Policy.Grammar
import AdmissionRules.Proofs.Policy.Index
import AdmissionRules.Proofs.Policy.Publication
import AdmissionRules.Proofs.Policy.Session
import AdmissionRules.Proofs.Policy.WellFormed
import AdmissionRules.Proofs.Registration.Configuration
import AdmissionRules.Proofs.Registration.Layout
import AdmissionRules.Proofs.Registration.Rules
import AdmissionRules.Proofs.Reload.AllOrNothing
import AdmissionRules.Proofs.Reload.Registration
import AdmissionRules.Proofs.Reload.Retry
import AdmissionRules.Proofs.Rule.Conversion
import AdmissionRules.Proofs.Rule.Dependence
import AdmissionRules.Proofs.Rule.OperatorTable
import AdmissionRules.Proofs.Rule.WellFormed
import AdmissionRules.Proofs.Text.ByteOrder
import AdmissionRules.Proofs.Yaml.Record
import AdmissionRules.Reload.Watch
import AdmissionRules.Proofs.Reload.Requeue
import AdmissionRules.Proofs.Policy.RuleConversion
import AdmissionRules.Proofs.Text.Quoted
import AdmissionRules.Proofs.Rule.Text
import AdmissionRules.Proofs.Decision.Message
import AdmissionRules.Proofs.Binary64.Rounding
import AdmissionRules.Proofs.Json.Numbers
import AdmissionRules.Proofs.Rule.Widening
import AdmissionRules.Proofs.Rule.Opposite
import AdmissionRules.Proofs.Metrics.History
import AdmissionRules.Proofs.Decision.Expiry
import AdmissionRules.Proofs.CommandLine.Registration
