import ContentPack.Number.Shortest
import ContentPack.Text.Quoted
import ContentPack.Text.Blank
import ContentPack.Json.Reader
import ContentPack.Json.Writer
import ContentPack.Json.Encoding
import ContentPack.Content.Model
import ContentPack.Error
import ContentPack.Compatibility.SchemaLimits
import ContentPack.Compatibility.BlockList
import ContentPack.Schema.Content
import ContentPack.Markup.NamedReferences
import ContentPack.ConceptCard
import ContentPack.Cache
import ContentPack.Fetch.Load
import ContentPack.Fetch.Fixture
import ContentPack.Http.Playback
import ContentPack.Settings.Environment
import ContentPack.Http.Connection
import ContentPack.Resolver
import ContentPack.Wire.Recording
import ContentPack.Wire.Checker
import ContentPack.Wire.Request
import ContentPack.Assembly
import ContentPack.Log
import ContentPack.CommandLine
import ContentPack.Wire.Settings
import ContentPack.Wire.Fragment
import ContentPack.Wire.Events
import ContentPack.Wire.Report
import ContentPack.Main
import ContentPack.Proofs.Cache
import ContentPack.Proofs.Contents
import ContentPack.Proofs.Outcome
import ContentPack.Proofs.Work
import ContentPack.Proofs.Table
import ContentPack.Proofs.Lists
import ContentPack.Proofs.Load
import ContentPack.Proofs.Faults
import ContentPack.Proofs.Requests
import ContentPack.Proofs.Search.Pace
import ContentPack.Proofs.Search.Standing
import ContentPack.Proofs.Search.Descent
import ContentPack.Proofs.Search.Visit
import ContentPack.Proofs.Search.Served
import ContentPack.Proofs.Joint
import ContentPack.Proofs.Group
import ContentPack.Proofs.Search.Alone
import ContentPack.Proofs.Search.Path
import ContentPack.Proofs.Search.Newest
import ContentPack.Proofs.Closure
import ContentPack.Proofs.Found
import ContentPack.Proofs.SkillClosure
import ContentPack.Proofs.Materials
import ContentPack.Proofs.Parts
import ContentPack.Proofs.Attempt
import ContentPack.Proofs.Resolution
import ContentPack.Proofs.Consistency
import ContentPack.Proofs.Interleaving
import ContentPack.Proofs.Errands
import ContentPack.Proofs.Fragments
import ContentPack.Proofs.Retry
import ContentPack.Proofs.Search.Regime
import ContentPack.Proofs.Sections
import ContentPack.Proofs.Safety
import ContentPack.Proofs.Declarations
import ContentPack.Proofs.Changes
import ContentPack.Proofs.Calls
import ContentPack.Proofs.Search.Course
import ContentPack.Proofs.Agreement
import ContentPack.Proofs.Schedules
import ContentPack.Proofs.Simulation
import ContentPack.Proofs.Search.Prefetch
import ContentPack.Proofs.Windows
import ContentPack.Proofs.Reports
import ContentPack.Proofs.Incompatibility
import ContentPack.Proofs.Search.Glances
import ContentPack.Proofs.Search.Solo
import ContentPack.Proofs.Search.Greatest
import ContentPack.Proofs.Tracker
import ContentPack.Proofs.Events
import ContentPack.Proofs.Advance
import ContentPack.Proofs.Tally
import ContentPack.Proofs.Loop
import ContentPack.Proofs.Countdown
import ContentPack.Proofs.Exact
import ContentPack.Proofs.Exchanges
import ContentPack.Proofs.Search.Replies
import ContentPack.Proofs.Service
import ContentPack.Proofs.Search.Perseverance
import ContentPack.Proofs.Search.Trace
import ContentPack.Proofs.Fetches
import ContentPack.Proofs.Operations
import ContentPack.Proofs.Http.Attempts
import ContentPack.Proofs.Http.Paths
import ContentPack.Proofs.Http.Targets
import ContentPack.Proofs.Layers
import ContentPack.Proofs.BreadthFirst
import ContentPack.Proofs.Merging
import ContentPack.Proofs.Limits
import ContentPack.Proofs.Joins
import ContentPack.Proofs.Markup.Escapes
import ContentPack.Proofs.Markup.Tags
import ContentPack.Proofs.ConceptCards
import ContentPack.Proofs.Mentions
import ContentPack.Proofs.Additions
import ContentPack.Proofs.Folds
import ContentPack.Proofs.PendingRuns
import ContentPack.Proofs.Fixtures
import ContentPack.Proofs.FanOut
import ContentPack.Proofs.Seats
