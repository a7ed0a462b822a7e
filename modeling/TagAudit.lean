import TagAudit.Text.Blank
import TagAudit.Text.Word
import TagAudit.Text.Digit
import TagAudit.Text.Printable
import TagAudit.Text.Identifier
import TagAudit.Text.LetterCase
import TagAudit.Text.Search
import TagAudit.Binary64.Shortest
import TagAudit.Json.Basic
import TagAudit.Json.Reader
import TagAudit.Json.Display
import TagAudit.Pattern
import TagAudit.Log
import TagAudit.Issue
import TagAudit.Container.Basic
import TagAudit.Taxonomy.Marketing
import TagAudit.Taxonomy.Role
import TagAudit.Taxonomy.Builtin
import TagAudit.Taxonomy.TypeName
import TagAudit.Config.Override
import TagAudit.Naming
import TagAudit.AnalysisError
import TagAudit.Script.Finding
import TagAudit.Usage.Unresolved
import TagAudit.Tags.Rules
import TagAudit.Tags.Migration
import TagAudit.Consent.Declaration
import TagAudit.Consent.Coverage
import TagAudit.Triggers.Quality
import TagAudit.Regex.Check
import TagAudit.Tags.Security
import TagAudit.Variables.Quality
import TagAudit.Binary64.Reading
import TagAudit.Score.Aggregate
import TagAudit.Score.ActionPlan
import TagAudit.IssueIndex
import TagAudit.Audit.Result
import TagAudit.Report.Text
import TagAudit.Report.Reading
import TagAudit.Command.Path
import TagAudit.Command.CopyMark
import TagAudit.Command.Arguments
import TagAudit.Text.LineBreak
import TagAudit.Command.Shell
import TagAudit.Command.FileTree
import TagAudit.Command.Session
import TagAudit.Command.Run
import TagAudit.Main
import TagAudit.Proofs.IssueIndex
import TagAudit.Proofs.Category
import TagAudit.Proofs.Tags.Issues
import TagAudit.Proofs.Failure
import TagAudit.Proofs.Consent.Issues
import TagAudit.Proofs.Triggers.Issues
import TagAudit.Proofs.Variables.Issues
import TagAudit.Proofs.Audit.Outcomes
import TagAudit.Proofs.Audit.Issues
import TagAudit.Proofs.Audit.Accounting
import TagAudit.Proofs.Audit.Isolation
import TagAudit.Proofs.Audit.Robustness
import TagAudit.Proofs.Binary64.DecimalText
import TagAudit.Proofs.Binary64.Shortest
import TagAudit.Proofs.Json.NumberText
import TagAudit.Proofs.Json.StringText
import TagAudit.Proofs.Json.Rearranged
import TagAudit.Proofs.Json.DistinctKeys
import TagAudit.Proofs.Json.Assignment
import TagAudit.Proofs.Json.Canonical
import TagAudit.Proofs.Duplicate
import TagAudit.Proofs.Triggers.Signature
import TagAudit.Proofs.Distinct
import TagAudit.Proofs.Agreement
import TagAudit.Proofs.Usage.References
import TagAudit.Proofs.Usage.Queries
import TagAudit.Proofs.Audit.Referencing
import TagAudit.Proofs.Audit.Addressing
import TagAudit.Proofs.Audit.Dangling
import TagAudit.Proofs.IssueIndex.Lookup
import TagAudit.Proofs.TagOrder.Tags
import TagAudit.Proofs.TagOrder.References
import TagAudit.Proofs.TagOrder.Export
import TagAudit.Proofs.TagOrder.Audits
import TagAudit.Proofs.TagOrder.Report
import TagAudit.Proofs.Audit.Cleanliness
import TagAudit.Proofs.Config.Reading
import TagAudit.Proofs.Number.Order
import TagAudit.Proofs.Number.Range
import TagAudit.Proofs.Config.Range
import TagAudit.Proofs.Config.Soundness
import TagAudit.Proofs.Score.Exact
import TagAudit.Proofs.Score.WeightedMean
import TagAudit.Proofs.Config.ExactWeights
import TagAudit.Proofs.Variables.Counts
import TagAudit.Proofs.Audit.Unclamped
import TagAudit.Proofs.Tags.Growth
import TagAudit.Proofs.Consent.Sources
import TagAudit.Proofs.Consent.Verdicts
import TagAudit.Proofs.Consent.Growth
import TagAudit.Proofs.Config.Merge
import TagAudit.Proofs.Command.UnusableName
import TagAudit.Proofs.Command.Program
import TagAudit.Proofs.Command.Stages
import TagAudit.Proofs.Command.Gracefulness
import TagAudit.Proofs.Usage.Placeholders
import TagAudit.Proofs.Audit.UnusedVariables
import TagAudit.Proofs.Duplicate.Counting
import TagAudit.Proofs.Audit.DuplicateVariables
import TagAudit.Proofs.Binary64.Quotient
import TagAudit.Proofs.Score.ShareLeft
import TagAudit.Proofs.Audit.TriggerScores
import TagAudit.Proofs.Score.Renormalized
import TagAudit.Proofs.Pattern.Ways
import TagAudit.Proofs.Pattern.Search
import TagAudit.Proofs.Script.Scan
import TagAudit.Proofs.Script.Arguments
import TagAudit.Proofs.Script.Constants
import TagAudit.Proofs.Script.PersonalData
import TagAudit.Proofs.Pattern.Language
import TagAudit.Proofs.Script.Blocks
import TagAudit.Proofs.Script.Elements
import TagAudit.Proofs.Script.Blanking
import TagAudit.Proofs.Script.StringContents
import TagAudit.Proofs.Regex.Spelling
import TagAudit.Proofs.Naming.SnakeCase
import TagAudit.Proofs.Naming.Suggestions
import TagAudit.Proofs.Naming.Normalization
import TagAudit.Proofs.Tags.PageViews
import TagAudit.Proofs.Taxonomy.Marketing
import TagAudit.Proofs.Triggers.BlockingReview
import TagAudit.Proofs.Severity
import TagAudit.Proofs.Sorting
import TagAudit.Proofs.IssueIndex.Grouping
import TagAudit.Proofs.Tags.Statistics
import TagAudit.Proofs.Script.RuleOrder
import TagAudit.Proofs.Tags.ScriptReviews
import TagAudit.Proofs.Report.IssueTable
import TagAudit.Proofs.Report.CategoryTable
import TagAudit.Proofs.Report.Accounting
import TagAudit.Proofs.Command.Grammar
