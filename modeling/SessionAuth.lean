import SessionAuth.Cache.Address
import SessionAuth.Config.EnvFile
import SessionAuth.Http.Server
import SessionAuth.Proofs.Base64
import SessionAuth.Proofs.Binary64.Bounds
import SessionAuth.Proofs.Bind
import SessionAuth.Proofs.Concurrent.CommonClock
import SessionAuth.Proofs.Concurrent.Enrolment
import SessionAuth.Proofs.Concurrent.Naming
import SessionAuth.Proofs.Concurrent.PasswordChange
import SessionAuth.Proofs.Concurrent.Provenance
import SessionAuth.Proofs.Concurrent.Race
import SessionAuth.Proofs.Concurrent.Revocation
import SessionAuth.Proofs.Concurrent.Schedule
import SessionAuth.Proofs.Concurrent.SingleUse
import SessionAuth.Proofs.Concurrent.Slots
import SessionAuth.Proofs.Concurrent.Supersession
import SessionAuth.Proofs.Concurrent.Survivor
import SessionAuth.Proofs.Concurrent.World
import SessionAuth.Proofs.Config.Faults
import SessionAuth.Proofs.Config.LookUp
import SessionAuth.Proofs.Config.Origins
import SessionAuth.Proofs.Hash.Length
import SessionAuth.Proofs.Http.Gate
import SessionAuth.Proofs.Http.Login
import SessionAuth.Proofs.Http.Origins
import SessionAuth.Proofs.Http.Wording
import SessionAuth.Proofs.Json.Fields
import SessionAuth.Proofs.Json.Grammar
import SessionAuth.Proofs.Json.Integers
import SessionAuth.Proofs.Json.Members
import SessionAuth.Proofs.Json.Numbers
import SessionAuth.Proofs.Json.Record
import SessionAuth.Proofs.Json.Records
import SessionAuth.Proofs.Json.RoundTrip
import SessionAuth.Proofs.Json.Scalars
import SessionAuth.Proofs.Json.Shapes
import SessionAuth.Proofs.Json.Skipped
import SessionAuth.Proofs.Json.Spans
import SessionAuth.Proofs.Json.Values
import SessionAuth.Proofs.Password.Hasher
import SessionAuth.Proofs.Password.Stored
import SessionAuth.Proofs.Sequential.Clock
import SessionAuth.Proofs.Sequential.Conduct
import SessionAuth.Proofs.Sequential.Course
import SessionAuth.Proofs.Sequential.Effect
import SessionAuth.Proofs.Sequential.Healthy
import SessionAuth.Proofs.Sequential.Isolation
import SessionAuth.Proofs.Sequential.Registration
import SessionAuth.Proofs.Sequential.Rejection
import SessionAuth.Proofs.Sequential.Truth
import SessionAuth.Proofs.Service.Along
import SessionAuth.Proofs.Service.AnyPlan
import SessionAuth.Proofs.Service.Contract
import SessionAuth.Proofs.Service.Failure
import SessionAuth.Proofs.Service.History
import SessionAuth.Proofs.Service.Issue
import SessionAuth.Proofs.Service.Lifetimes
import SessionAuth.Proofs.Service.Outcome
import SessionAuth.Proofs.Service.Profile
import SessionAuth.Proofs.Service.Record
import SessionAuth.Proofs.Service.Register
import SessionAuth.Proofs.Service.Request
import SessionAuth.Proofs.Service.Sample
import SessionAuth.Proofs.Service.Settle
import SessionAuth.Proofs.Service.System
import SessionAuth.Proofs.Service.Trace
import SessionAuth.Proofs.Service.Wording
import SessionAuth.Proofs.Session.History
import SessionAuth.Proofs.Session.Interchange
import SessionAuth.Proofs.Session.Store
import SessionAuth.Proofs.Text.Bytes
import SessionAuth.Proofs.Text.Decimal
import SessionAuth.Proofs.Text.LowerCase
import SessionAuth.Proofs.Text.Split
import SessionAuth.Proofs.Text.Trim
import SessionAuth.Proofs.Time.Calendar
import SessionAuth.Proofs.Time.Rfc3339
import SessionAuth.Proofs.Token.Bearer
import SessionAuth.Proofs.Token.Expiry
import SessionAuth.Proofs.Token.Header
import SessionAuth.Proofs.Token.Issue
import SessionAuth.Proofs.Token.Opening
import SessionAuth.Proofs.Token.Override
import SessionAuth.Proofs.Token.Presented
import SessionAuth.Proofs.Token.PublicKey
import SessionAuth.Proofs.Token.RoundTrip
import SessionAuth.Proofs.Token.Subject
import SessionAuth.Proofs.User.Accounts
import SessionAuth.Proofs.User.Database
import SessionAuth.Proofs.User.Reload
import SessionAuth.Proofs.User.Row
import SessionAuth.Proofs.User.Table
import SessionAuth.Proofs.User.Username
import SessionAuth.Proofs.Wire.RoundTrip
import SessionAuth.Service.Outage
import SessionAuth.Session.Cached
import SessionAuth.User.Repository
import SessionAuth.Wire.Decode
