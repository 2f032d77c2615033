import RuleWatch.Main
import RuleWatch.Server
import RuleWatch.Work.World
import RuleWatch.Proofs.Rule.Part
import RuleWatch.Proofs.Work.Deed
import RuleWatch.Proofs.Store.Sound
import RuleWatch.Proofs.Work.Crowd
import RuleWatch.Proofs.Work.Effect
import RuleWatch.Proofs.Service.Mutation
import RuleWatch.Proofs.Concurrent.Valid
import RuleWatch.Proofs.Store.Write
import RuleWatch.Proofs.Concurrent.LastWrite
import RuleWatch.Proofs.Service.Run
import RuleWatch.Proofs.Registry.Basic
import RuleWatch.Proofs.Registry.Refinement
import RuleWatch.Proofs.Detector.Acknowledge
import RuleWatch.Proofs.Api.Quiet
import RuleWatch.Proofs.Api.Change
import RuleWatch.Proofs.Api.Serve
import RuleWatch.Proofs.Concurrent.Announced
import RuleWatch.Proofs.Service.Miss
import RuleWatch.Proofs.Work.Stable
import RuleWatch.Proofs.Service.Request
import RuleWatch.Proofs.Concurrent.Deleted
import RuleWatch.Proofs.Listing.Order
import RuleWatch.Proofs.Listing.Page
import RuleWatch.Proofs.Store.Listing
import RuleWatch.Proofs.Api.Listing
import RuleWatch.Proofs.Service.Coupled
import RuleWatch.Proofs.Api.Coupled
import RuleWatch.Proofs.Api.Independence
import RuleWatch.Proofs.Work.Confined
import RuleWatch.Proofs.Service.Conduct
import RuleWatch.Proofs.Api.Reach
import RuleWatch.Proofs.Api.Conduct
import RuleWatch.Proofs.Http.Trace
import RuleWatch.Proofs.Api.Trace
import RuleWatch.Proofs.Result
import RuleWatch.Proofs.Detector.Relay
import RuleWatch.Proofs.Api.Question
import RuleWatch.Proofs.Api.Relay
import RuleWatch.Proofs.Api.Reachable
import RuleWatch.Proofs.Api.Gates
import RuleWatch.Proofs.Store.Apart
import RuleWatch.Proofs.Service.Update
import RuleWatch.Proofs.Work.Serial
import RuleWatch.Proofs.Rule.Amended
import RuleWatch.Proofs.Concurrent.Disjoint
import RuleWatch.Proofs.Interval.Spelling
import RuleWatch.Proofs.Text.Place
import RuleWatch.Proofs.Text.Lowercase
import RuleWatch.Proofs.Listing.Pattern
import RuleWatch.Proofs.Interval.Scan
import RuleWatch.Proofs.Store.Filter
import RuleWatch.Proofs.Rule.Merge
import RuleWatch.Proofs.Rule.Name
import RuleWatch.Proofs.Service.Again
import RuleWatch.Proofs.Service.Anew
import RuleWatch.Proofs.Rule.Verdict
import RuleWatch.Proofs.TimeRange
import RuleWatch.Proofs.Api.Episode
import RuleWatch.Proofs.Keyed
import RuleWatch.Proofs.Json.Record
import RuleWatch.Proofs.Json.Settles
import RuleWatch.Proofs.Monitor
import RuleWatch.Proofs.Metric
import RuleWatch.Proofs.Api.SecondPass
import RuleWatch.Proofs.Store.Password
import RuleWatch.Proofs.Text.Integer
import RuleWatch.Proofs.Api.Range
import RuleWatch.Proofs.Work.Concord
import RuleWatch.Proofs.Detector.FailureClass
import RuleWatch.Proofs.Service.Concord
import RuleWatch.Proofs.Api.Concord
import RuleWatch.Proofs.Json.Words
import RuleWatch.Proofs.Json.Silent
import RuleWatch.Proofs.Json.Buffered
import RuleWatch.Proofs.Rule.Request
import RuleWatch.Proofs.Api.Request
import RuleWatch.Proofs.Store.Page
import RuleWatch.Proofs.Store.Walk
import RuleWatch.Proofs.Text.Snippet
import RuleWatch.Proofs.Api.Logged
import RuleWatch.Proofs.Api.Literal
