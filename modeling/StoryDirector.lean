import StoryDirector.Text.Ranges
import StoryDirector.Dict
import StoryDirector.Text.Blank
import StoryDirector.Text.Alphanumeric
import StoryDirector.Text.Lowercase
import StoryDirector.Text.Quoted
import StoryDirector.Json
import StoryDirector.Json.Text
import StoryDirector.Json.Reader
import StoryDirector.Duration
import StoryDirector.Uuid
import StoryDirector.Digest.Sha256
import StoryDirector.Decimal.Binary
import StoryDirector.Decimal.Shortest
import StoryDirector.Decimal.Layout
import StoryDirector.Decimal.Reading
import StoryDirector.Action.Kind
import StoryDirector.Action.Keyword
import StoryDirector.Action
import StoryDirector.Action.Lexicon
import StoryDirector.Event
import StoryDirector.World.Npc
import StoryDirector.World
import StoryDirector.Session
import StoryDirector.Worker
import StoryDirector.Settings
import StoryDirector.Plan.Task
import StoryDirector.Plan.Order
import StoryDirector.Plan.Template
import StoryDirector.Plan
import StoryDirector.Briefing
import StoryDirector.Briefing.Fingerprint
import StoryDirector.Cascade.Processor
import StoryDirector.Cascade.Derived
import StoryDirector.Cascade
import StoryDirector.Merge
import StoryDirector.Progress
import StoryDirector.Progress.Broadcast
import StoryDirector.Lock
import StoryDirector.Clockwork
import StoryDirector.Cache
import StoryDirector.Cache.Flight
import StoryDirector.Cache.Inquiry
import StoryDirector.Worker.Timings
import StoryDirector.Worker.Registry
import StoryDirector.Worker.Script
import StoryDirector.Run.Ledger
import StoryDirector.Run.Engine
import StoryDirector.Run.Call
import StoryDirector.Run.Execution
import StoryDirector.Run
import StoryDirector.Run.Solo
import StoryDirector.Director
import StoryDirector.Director.Visit
import StoryDirector.Director.Timeline
import StoryDirector.Cache.Traffic
import StoryDirector.Run.Vigil
import StoryDirector.Settings.Directives
import StoryDirector.Settings.Validation
import StoryDirector.Settings.Environment
import StoryDirector.Record
import StoryDirector.Record.World
import StoryDirector.Record.Session
import StoryDirector.Record.Contribution
import StoryDirector.Record.Settings
import StoryDirector.Toml.Scalar
import StoryDirector.Toml.Table
import StoryDirector.Toml.Reader
import StoryDirector.Settings.Loading
import StoryDirector.Proofs.Cache.Contents
import StoryDirector.Proofs.Cache.Gates
import StoryDirector.Proofs.Cache.SingleFlight
import StoryDirector.Proofs.Cache.Alone
import StoryDirector.Proofs.Cache.BoundedMap
import StoryDirector.Proofs.Run.Driving
import StoryDirector.Proofs.Run.Prompt
import StoryDirector.Proofs.Run.Transparency
import StoryDirector.Proofs.Plan.Traversal
import StoryDirector.Proofs.Run.Ending
import StoryDirector.Proofs.Plan.Dependencies
import StoryDirector.Proofs.Run.DependencyLaw
import StoryDirector.Proofs.Run.Stepwise
import StoryDirector.Proofs.Run.Verdict
import StoryDirector.Proofs.Run.Feedback
import StoryDirector.Proofs.Director.House
import StoryDirector.Proofs.Director.Exclusion
import StoryDirector.Proofs.Director.Leaving
import StoryDirector.Proofs.Cascade.Brought
import StoryDirector.Proofs.Cascade.Identities
import StoryDirector.Proofs.Director.SameEvents
import StoryDirector.Proofs.Cascade.Trace
import StoryDirector.Proofs.Cascade.Conservation
import StoryDirector.Proofs.Cascade.Followups
import StoryDirector.Proofs.Plan.Ready
import StoryDirector.Proofs.Plan.Story
import StoryDirector.Proofs.Run.Telling
import StoryDirector.Proofs.Run.Hearing
import StoryDirector.Proofs.Run.Runnable
import StoryDirector.Proofs.Run.AtOnce
import StoryDirector.Proofs.Director.Quiet
import StoryDirector.Proofs.Director.Isolation
import StoryDirector.Proofs.Cascade.Flags
import StoryDirector.Proofs.Cascade.Faults
import StoryDirector.Proofs.Director.Changes
import StoryDirector.Proofs.Director.Histories
import StoryDirector.Proofs.Director.Actions
import StoryDirector.Proofs.Director.Anomalies
import StoryDirector.Proofs.Run.Alarms
import StoryDirector.Proofs.Director.Looks
import StoryDirector.Proofs.Director.Commands
import StoryDirector.Proofs.Director.Serving
import StoryDirector.Proofs.Director.Housing
import StoryDirector.Proofs.Director.Answering
import StoryDirector.Proofs.Run.Notices
import StoryDirector.Proofs.Run.News
import StoryDirector.Proofs.Director.Watching
import StoryDirector.Proofs.Run.Calling
import StoryDirector.Proofs.Run.AtWork
import StoryDirector.Proofs.Run.Books
import StoryDirector.Proofs.Run.Accounts
import StoryDirector.Proofs.Plan.Precedence
import StoryDirector.Proofs.Action.Searching
import StoryDirector.Proofs.Action.Classification
import StoryDirector.Proofs.Json.Words
import StoryDirector.Proofs.Json.Unambiguous
import StoryDirector.Proofs.Json.Ordered
import StoryDirector.Proofs.Briefing.Question
import StoryDirector.Proofs.Cache.Kept
import StoryDirector.Proofs.Run.Provenance
import StoryDirector.Proofs.Merge.Usable
import StoryDirector.Proofs.Merge.Failures
import StoryDirector.Proofs.Cascade.Remembered
import StoryDirector.Proofs.Cache.Clear
import StoryDirector.Proofs.Run.Stints
import StoryDirector.Proofs.Run.Delays
import StoryDirector.Proofs.Run.Waiting
import StoryDirector.Proofs.Cascade.Chaos
import StoryDirector.Proofs.Cascade.Roster
import StoryDirector.Proofs.Cascade.Writes
import StoryDirector.Proofs.Settings.Requirements
import StoryDirector.Proofs.Settings.Overriding
import StoryDirector.Proofs.Run.Horizon
