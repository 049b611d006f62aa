import CloudReach.Context
import CloudReach.Discovery.Listing
import CloudReach.Event.Json
import CloudReach.Event.Log
import CloudReach.Proofs.Discovery.Law
import CloudReach.Proofs.Readiness.Poll
import CloudReach.Proofs.ResponsePolicy.Budget
import CloudReach.Properties.Json
import CloudReach.Readiness.WaitRecord
import CloudReach.Signing
import CloudReach.Proofs.EndpointTable
import CloudReach.Proofs.Percent
import CloudReach.Proofs.Text
import CloudReach.Proofs.Outcome
import CloudReach.Proofs.Url.WellFormed
import CloudReach.Proofs.Url.Target
import CloudReach.Proofs.Redirect.Steps
import CloudReach.Proofs.HostPort
import CloudReach.Proofs.Redirect.HostHeader
import CloudReach.Proofs.Url.Segments
import CloudReach.Proofs.Route
import CloudReach.Proofs.Readiness.Budget
import CloudReach.Proofs.ResponsePolicy.Frame
import CloudReach.Proofs.Discovery.Operation
import CloudReach.Proofs.Discovery.Questions
import CloudReach.Proofs.Discovery.Passes
import CloudReach.Proofs.Discovery.Session
import CloudReach.Proofs.Discovery.Inquiries
import CloudReach.Proofs.Discovery.Owners
import CloudReach.Proofs.Signing
import CloudReach.Proofs.Discovery.Traffic
import CloudReach.Proofs.Json.Grammar
import CloudReach.Proofs.Json.Reader
import CloudReach.Proofs.Json.Text
import CloudReach.Proofs.Json.Number
import CloudReach.Proofs.Json.Skip
import CloudReach.Proofs.Json.Record
import CloudReach.Proofs.Json.Value
import CloudReach.Proofs.Properties
import CloudReach.Proofs.Event.Journal
import CloudReach.Proofs.Url.Fragment
import CloudReach.Proofs.Redirect.Loop
import CloudReach.Proofs.Redirect.Refusal
import CloudReach.Proofs.Backoff
import CloudReach.Proofs.Retry.Consultations
import CloudReach.Proofs.ErrorDocument
import CloudReach.Proofs.Rehost
import CloudReach.Proofs.Redirect.SeeOther
import CloudReach.Proofs.Route.Fill
import CloudReach.Proofs.Form
import CloudReach.Proofs.Url.Query
import CloudReach.Proofs.Route.Query
import CloudReach.Proofs.Discovery.ZoneMap
import CloudReach.Proofs.EndpointTable.Order
import CloudReach.Proofs.Jitter
import CloudReach.Event.Sink
import CloudReach.Proofs.Event.Log
import CloudReach.Proofs.Jitter.Floor
import CloudReach.Proofs.Readiness.Attempts
import CloudReach.Proofs.Calendar
import CloudReach.Proofs.Fields
import CloudReach.Proofs.Timestamp
import CloudReach.Proofs.Readiness.Settings
import CloudReach.Proofs.Event.Millis
