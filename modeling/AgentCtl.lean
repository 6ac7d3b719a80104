import AgentCtl.Library.Prog
import AgentCtl.Library.OrderedDict
import AgentCtl.Library.Lockstep
import AgentCtl.Library.History
import AgentCtl.Library.Recency
import AgentCtl.Library.SelfDelimiting
import AgentCtl.Library.Piecewise
import AgentCtl.Python.Str
import AgentCtl.Errors
import AgentCtl.Python.Json
import AgentCtl.Python.JsonText
import AgentCtl.Python.JsonInjective
import AgentCtl.Python.JsonChars
import AgentCtl.Python.IpAddress
import AgentCtl.Models
import AgentCtl.Library.Tally
import AgentCtl.Obs.Metrics
import AgentCtl.Providers.Tooltrans
import AgentCtl.Providers.Base
import AgentCtl.Providers.OpenAIProvider
import AgentCtl.Providers.AnthropicProvider
import AgentCtl.Library.ExceptList
import AgentCtl.Providers.OpenAIForm
import AgentCtl.Providers.RoundTrip
import AgentCtl.Providers.Shapes
import AgentCtl.Providers.ToolMeaning
import AgentCtl.Providers.BlocksInOpenai
import AgentCtl.Providers.Conservation
import AgentCtl.Library.Regex
import AgentCtl.Library.Spelling
import AgentCtl.Library.Substitution
import AgentCtl.Library.Survival
import AgentCtl.Store.Redaction
import AgentCtl.Store.Patterns
import AgentCtl.Store.Edges
import AgentCtl.Store.SecondPass
import AgentCtl.Store.NamedSecrets
import AgentCtl.Core.Router
import AgentCtl.Core.Cost
import AgentCtl.Core.Circuit
import AgentCtl.Core.Budget
import AgentCtl.Library.PartialRun
import AgentCtl.Core.BudgetConcurrency
import AgentCtl.Core.BudgetEviction
import AgentCtl.Core.Host
import AgentCtl.Core.Gateway
import AgentCtl.Core.BudgetRounding
import AgentCtl.Core.HostLaws
import AgentCtl.Core.Ledger
import AgentCtl.Core.Scripted
import AgentCtl.Core.CacheFailOpen
import AgentCtl.Core.Visits
import AgentCtl.Core.InvokeRuns
import AgentCtl.Core.EmbeddingRunner
import AgentCtl.Core.Accounting
import AgentCtl.Core.Deadline
import AgentCtl.Core.StreamRunner
import AgentCtl.Core.StreamVisits
import AgentCtl.Core.StreamRuns
import AgentCtl.Core.StreamMetering
import AgentCtl.Core.LocalErrors
import AgentCtl.Core.TwoRuns
import AgentCtl.Core.TwoStreams
import AgentCtl.Core.ErrorText
import AgentCtl.Core.SavedRecords
import AgentCtl.Core.Outcomes
import AgentCtl.Providers.Alternation
import AgentCtl.Providers.Projection
import AgentCtl.Providers.Fragments
import AgentCtl.Providers.Reassembly
import AgentCtl.Core.DrainedStreams
import AgentCtl.Core.RunnerFrames
import AgentCtl.Server.App
import AgentCtl.Server.Clients
import AgentCtl.Server.SseText
import AgentCtl.Server.StreamAnswers
import AgentCtl.Server.BufferedStreams
import AgentCtl.Core.BreakerHistory
import AgentCtl.Core.BreakerConcurrency
import AgentCtl.Core.DeadlineCharges
import AgentCtl.Store.AsyncStore
import AgentCtl.Store.ReadYourWrites
import AgentCtl.Store.Flush
import AgentCtl.Store.Deliveries
import AgentCtl.Library.NullableColumns
import AgentCtl.Store.SqliteStore
import AgentCtl.Store.SchemaUpgrade
import AgentCtl.Store.Backfill
import AgentCtl.Store.ColumnDrift
import AgentCtl.Store.Listing
import AgentCtl.Core.MemoryCache
import AgentCtl.Core.CacheRuns
import AgentCtl.Core.CacheHistory
import AgentCtl.Server.ContentForms
import AgentCtl.Server.ContentShapes
import AgentCtl.Server.Boundary
import AgentCtl.Server.Handlers
import AgentCtl.Server.RateLimiter
import AgentCtl.Server.RateLimitKey
import AgentCtl.Server.CostGovernance
import AgentCtl.Server.Middleware
import AgentCtl.Library.Unwinding
import AgentCtl.Server.Connections
import AgentCtl.Server.Admission
import AgentCtl.Server.Throttle
import AgentCtl.Server.Isolation
import AgentCtl.Server.Ledger
import AgentCtl.Server.Answers
import AgentCtl.Server.Reconciliation
import AgentCtl.Obs.MetricLedger
import AgentCtl.Obs.Registry
import AgentCtl.Cli.Serve
import AgentCtl.Cli.Verdict
import AgentCtl.Client.GatewayClient
import AgentCtl.Cli.Reports
import AgentCtl.Cli.Doctor
