import TrialRouting.Attempt.Decorator
import TrialRouting.Attempt.Flight
import TrialRouting.Attempt.Interceptor
import TrialRouting.Attempt.Run
import TrialRouting.Breaker
import TrialRouting.Catalog
import TrialRouting.Causes
import TrialRouting.CommandLine
import TrialRouting.Context
import TrialRouting.Definition
import TrialRouting.Definition.Json
import TrialRouting.Directory
import TrialRouting.Duration
import TrialRouting.Failure
import TrialRouting.Fallback
import TrialRouting.Gate
import TrialRouting.Greeter
import TrialRouting.Journal
import TrialRouting.Json.Basic
import TrialRouting.Json.Printer
import TrialRouting.Json.Reader
import TrialRouting.Json.Record
import TrialRouting.Json.Token
import TrialRouting.Limiter
import TrialRouting.Main
import TrialRouting.Number.Double
import TrialRouting.Number.Shortest
import TrialRouting.Proofs.Attempt.Bounds
import TrialRouting.Proofs.Attempt.BuiltIns
import TrialRouting.Proofs.Attempt.Descent
import TrialRouting.Proofs.Attempt.Effects
import TrialRouting.Proofs.Attempt.Permits
import TrialRouting.Proofs.Attempt.Runs
import TrialRouting.Proofs.Attempt.Spans
import TrialRouting.Proofs.Attempt.Teardown
import TrialRouting.Proofs.Attempt.Timers
import TrialRouting.Proofs.Attempt.Tokens
import TrialRouting.Proofs.Attempt.Trails
import TrialRouting.Proofs.Breaker.Bookkeeping
import TrialRouting.Proofs.Breaker.Junction
import TrialRouting.Proofs.Breaker.Opening
import TrialRouting.Proofs.Breaker.ResetTime
import TrialRouting.Proofs.Breaker.Simulation
import TrialRouting.Proofs.Breaker.Textbook
import TrialRouting.Proofs.Breaker.Traffic
import TrialRouting.Proofs.Breaker.Visits
import TrialRouting.Proofs.Call.Asides
import TrialRouting.Proofs.Call.Attempts
import TrialRouting.Proofs.Call.Budget
import TrialRouting.Proofs.Call.Cancellation
import TrialRouting.Proofs.Call.Concourse
import TrialRouting.Proofs.Call.Course
import TrialRouting.Proofs.Call.Deadline
import TrialRouting.Proofs.Call.Grammar
import TrialRouting.Proofs.Call.Grants
import TrialRouting.Proofs.Call.Journey
import TrialRouting.Proofs.Call.Outcomes
import TrialRouting.Proofs.Call.Permits
import TrialRouting.Proofs.Call.Punctual
import TrialRouting.Proofs.Call.Questions
import TrialRouting.Proofs.Call.Reports
import TrialRouting.Proofs.Call.Route
import TrialRouting.Proofs.Call.Schedules
import TrialRouting.Proofs.Call.Scopes
import TrialRouting.Proofs.Call.Selection
import TrialRouting.Proofs.Call.Spans
import TrialRouting.Proofs.Call.Stories
import TrialRouting.Proofs.Call.Timelines
import TrialRouting.Proofs.Call.TokenTree
import TrialRouting.Proofs.Call.Tokens
import TrialRouting.Proofs.Call.Traces
import TrialRouting.Proofs.Call.World
import TrialRouting.Proofs.Catalog.Accounts
import TrialRouting.Proofs.Catalog.Answers
import TrialRouting.Proofs.Catalog.Sharing
import TrialRouting.Proofs.Catalog.Workshop
import TrialRouting.Proofs.Definition
import TrialRouting.Proofs.Definition.Json
import TrialRouting.Proofs.Definition.Normal
import TrialRouting.Proofs.Definition.Records
import TrialRouting.Proofs.Definition.Spelling
import TrialRouting.Proofs.Greeter.Alone
import TrialRouting.Proofs.Greeter.Attempts
import TrialRouting.Proofs.Greeter.Calls
import TrialRouting.Proofs.Greeter.Greetings
import TrialRouting.Proofs.Greeter.Settings
import TrialRouting.Proofs.Greeter.Stack
import TrialRouting.Proofs.Greeter.Standing
import TrialRouting.Proofs.Itinerary
import TrialRouting.Proofs.Json.Grammar
import TrialRouting.Proofs.Json.Literals
import TrialRouting.Proofs.Json.Printed
import TrialRouting.Proofs.Json.Reading
import TrialRouting.Proofs.Json.Tokens
import TrialRouting.Proofs.Json.Trailing
import TrialRouting.Proofs.Minutes
import TrialRouting.Proofs.Observers.Attempts
import TrialRouting.Proofs.Observers.Calls
import TrialRouting.Proofs.Observers.Schedules
import TrialRouting.Proofs.Overlap.Attempts
import TrialRouting.Proofs.Overlap.Backdrop
import TrialRouting.Proofs.Overlap.Batches
import TrialRouting.Proofs.Overlap.Calls
import TrialRouting.Proofs.Overlap.Chronicle
import TrialRouting.Proofs.Overlap.Crowds
import TrialRouting.Proofs.Overlap.Instants
import TrialRouting.Proofs.Overlap.Rounds
import TrialRouting.Proofs.Overlap.Turns
import TrialRouting.Proofs.Overlap.Twins
import TrialRouting.Proofs.Pipeline.Composition
import TrialRouting.Proofs.Pipeline.Decorators
import TrialRouting.Proofs.Pipeline.Layers
import TrialRouting.Proofs.Progress
import TrialRouting.Proofs.Scopes
import TrialRouting.Proofs.Selection
import TrialRouting.Proofs.Telemetry
import TrialRouting.Proofs.Trace
import TrialRouting.Proofs.Tokens
import TrialRouting.Proofs.TrialKeys
import TrialRouting.Proofs.Validation
import TrialRouting.Registration.Activation
import TrialRouting.Registration.Basic
import TrialRouting.Registration.Draft
import TrialRouting.Registration.Error
import TrialRouting.Registration.Policy
import TrialRouting.Router
import TrialRouting.Schedule
import TrialRouting.Script
import TrialRouting.Selection.Asking
import TrialRouting.Selection.Basic
import TrialRouting.Selection.Mode
import TrialRouting.Selection.Setting
import TrialRouting.State
import TrialRouting.Telemetry
import TrialRouting.Text.Invisible
import TrialRouting.Text.Quoted
import TrialRouting.Timer
import TrialRouting.Token
import TrialRouting.Trace
