import Watchgate.Approval.Desk
import Watchgate.Approval.Gate
import Watchgate.Approval.Partners
import Watchgate.Approval.Request
import Watchgate.Calendar.Date
import Watchgate.Calendar.Moment
import Watchgate.Command.Arguments
import Watchgate.Command.Run
import Watchgate.Command.Secret
import Watchgate.Command.Threshold
import Watchgate.Command.Words
import Watchgate.Condition.Basic
import Watchgate.Condition.Judge
import Watchgate.Config.Check
import Watchgate.Config.Load
import Watchgate.Config.Sections
import Watchgate.Content.Context
import Watchgate.Content.Item
import Watchgate.Content.Metadata
import Watchgate.Criteria.Certification
import Watchgate.Criteria.Evaluator
import Watchgate.Criteria.Family
import Watchgate.Criteria.Genre
import Watchgate.Criteria.Language
import Watchgate.Criteria.Range
import Watchgate.Criteria.Season
import Watchgate.Criteria.User
import Watchgate.Criteria.Year
import Watchgate.Failure
import Watchgate.Journal
import Watchgate.Journal.Record
import Watchgate.Journal.Template
import Watchgate.Json.Reader
import Watchgate.Json.Writer
import Watchgate.Main
import Watchgate.Media.Acquire
import Watchgate.Media.Client
import Watchgate.Media.Exchange
import Watchgate.Media.Found
import Watchgate.Media.Lookup
import Watchgate.Notice.Notifier
import Watchgate.Notice.Payload
import Watchgate.Number.Binary64
import Watchgate.Number.IntegerText
import Watchgate.Number.Rounded
import Watchgate.Number.Shortest
import Watchgate.Pattern.CaseClosure
import Watchgate.Pattern.Matcher
import Watchgate.Pattern.Reader
import Watchgate.Pattern.Screen
import Watchgate.Pattern.Syntax
import Watchgate.Proofs.Approval.Batches
import Watchgate.Proofs.Approval.Commuting
import Watchgate.Proofs.Approval.Deferral
import Watchgate.Proofs.Approval.Desk
import Watchgate.Proofs.Approval.Expiry
import Watchgate.Proofs.Approval.Failures
import Watchgate.Proofs.Approval.Flagged
import Watchgate.Proofs.Approval.Frame
import Watchgate.Proofs.Approval.Gate
import Watchgate.Proofs.Approval.Ids
import Watchgate.Proofs.Approval.Keys
import Watchgate.Proofs.Approval.Lifecycle
import Watchgate.Proofs.Approval.Listings
import Watchgate.Proofs.Approval.Lockstep
import Watchgate.Proofs.Approval.OneUser
import Watchgate.Proofs.Approval.Outcomes
import Watchgate.Proofs.Approval.Partners
import Watchgate.Proofs.Approval.Provenance
import Watchgate.Proofs.Approval.Recorded
import Watchgate.Proofs.Approval.Replay
import Watchgate.Proofs.Approval.Retrying
import Watchgate.Proofs.Approval.SideBySide
import Watchgate.Proofs.Approval.Sweeping
import Watchgate.Proofs.Approval.Table
import Watchgate.Proofs.Approval.Waiting
import Watchgate.Proofs.Calendar.Civil
import Watchgate.Proofs.Calendar.Month
import Watchgate.Proofs.Checks
import Watchgate.Proofs.Condition.BooleanLaws
import Watchgate.Proofs.Condition.Grammar
import Watchgate.Proofs.Condition.Tree
import Watchgate.Proofs.Condition.Validation
import Watchgate.Proofs.Config.Checking
import Watchgate.Proofs.Config.Reseeding
import Watchgate.Proofs.Config.Seeding
import Watchgate.Proofs.Config.Startup
import Watchgate.Proofs.Criteria.Complement
import Watchgate.Proofs.Criteria.Data
import Watchgate.Proofs.Criteria.Faults
import Watchgate.Proofs.Criteria.Overlap
import Watchgate.Proofs.Criteria.Shorthand
import Watchgate.Proofs.Media.Acquiring
import Watchgate.Proofs.Media.Browsing
import Watchgate.Proofs.Media.Labels
import Watchgate.Proofs.Media.Lookups
import Watchgate.Proofs.Media.Steady
import Watchgate.Proofs.Pattern.Exactness
import Watchgate.Proofs.Pattern.Openings
import Watchgate.Proofs.Pattern.Quantifiers
import Watchgate.Proofs.Pattern.Screening
import Watchgate.Proofs.Pattern.Soundness
import Watchgate.Proofs.Pattern.Spelling
import Watchgate.Proofs.Pattern.Tree
import Watchgate.Proofs.Quota.Accounting
import Watchgate.Proofs.Quota.Admission
import Watchgate.Proofs.Quota.Ceiling
import Watchgate.Proofs.Quota.Reckoning
import Watchgate.Proofs.Quota.Replays
import Watchgate.Proofs.Quota.Resetting
import Watchgate.Proofs.Quota.Retention
import Watchgate.Proofs.Quota.Status
import Watchgate.Proofs.Quota.Window
import Watchgate.Proofs.Routing.Apart
import Watchgate.Proofs.Routing.Browsing
import Watchgate.Proofs.Routing.Decision
import Watchgate.Proofs.Routing.Failing
import Watchgate.Proofs.Routing.Finding
import Watchgate.Proofs.Routing.Merging
import Watchgate.Proofs.Routing.Plugins
import Watchgate.Proofs.Routing.Ranking
import Watchgate.Proofs.Routing.Recasting
import Watchgate.Proofs.Routing.Recoding
import Watchgate.Proofs.Routing.Resolution
import Watchgate.Proofs.Routing.TargetType
import Watchgate.Proofs.Service.Events
import Watchgate.Proofs.Service.Maintenance
import Watchgate.Proofs.Service.Recalling
import Watchgate.Proofs.Service.Runs
import Watchgate.Proofs.Service.Syncing
import Watchgate.Proofs.Session.Answers
import Watchgate.Proofs.Session.Browsing
import Watchgate.Proofs.Session.Quiet
import Watchgate.Proofs.Store.Columns
import Watchgate.Proofs.Store.RequestTable
import Watchgate.Proofs.Store.Rows
import Watchgate.Proofs.Store.RuleTable
import Watchgate.Proofs.Store.Upsert
import Watchgate.Proofs.Store.UsageTable
import Watchgate.Proofs.Store.UserTable
import Watchgate.Proofs.Web.TurnedAway
import Watchgate.Quota.Basic
import Watchgate.Quota.Tracker
import Watchgate.Routing.Instance
import Watchgate.Routing.Placement
import Watchgate.Routing.Resolve
import Watchgate.Routing.Rule
import Watchgate.Routing.Runner
import Watchgate.Routing.Selection
import Watchgate.Routing.Verdict
import Watchgate.Service
import Watchgate.Session.Basic
import Watchgate.Session.Tables
import Watchgate.Store.Basic
import Watchgate.Store.Column
import Watchgate.Store.Instances
import Watchgate.Store.Quotas
import Watchgate.Store.Requests
import Watchgate.Store.Rules
import Watchgate.Text.Basic
import Watchgate.Text.CaseMap
import Watchgate.Text.CaseTables
import Watchgate.Text.Digit
import Watchgate.Text.Printable
import Watchgate.Text.Word
import Watchgate.Value.Basic
import Watchgate.Value.Display
import Watchgate.Value.Order
import Watchgate.Value.Reading
import Watchgate.Web.Message
import Watchgate.Web.Routes
import Watchgate.Web.Token
import Watchgate.Yaml.Block
import Watchgate.Yaml.Cursor
import Watchgate.Yaml.Document
import Watchgate.Yaml.Flowing
import Watchgate.Yaml.Kind
import Watchgate.Yaml.Node
import Watchgate.Yaml.Token
import Watchgate.Yaml.Tokens
