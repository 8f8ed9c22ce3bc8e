import Soql.Text.Pieces
import Soql.Text.Blank
import Soql.Text.Alphanumeric
import Soql.Text.Digit
import Soql.Text.Quoted
import Soql.Number.Shortest
import Soql.Json.Basic
import Soql.Json.Reader
import Soql.Json.Decode
import Soql.Query.Ordering
import Soql.Query.Filter
import Soql.Query.Wire
import Soql.Url.FormData
import Soql.Url.Basic
import Soql.Store.TokenStore
import Soql.Service.Basic
import Soql.Config.Reader
import Soql.Config.Template
import Soql.Clipboard
import Soql.Cli.Machine
import Soql.Main
import Soql.Proofs.Query.Normal
import Soql.Proofs.Text.Separable
import Soql.Proofs.Text.Trim
import Soql.Proofs.Query.Unambiguous
import Soql.Proofs.Query.Meaning
import Soql.Proofs.Filter.Grammar
import Soql.Proofs.Filter.Reading
import Soql.Proofs.Filter.Printing
import Soql.Proofs.Json.Layout
import Soql.Proofs.Json.Record
import Soql.Proofs.Json.ReadBack
import Soql.Proofs.Json.Nesting
import Soql.Proofs.Json.Tidy
import Soql.Proofs.Store.StateFile
import Soql.Proofs.Store.Backend
import Soql.Proofs.Store.Coherence
import Soql.Proofs.Store.Runs
import Soql.Proofs.Store.Crash
import Soql.Proofs.Store.Shared
import Soql.Proofs.SignIn.Outcome
import Soql.Proofs.Api.Gate
import Soql.Proofs.Session.Crowd
import Soql.Proofs.SignIn.SingleFlight
import Soql.Proofs.Query.Form
import Soql.Proofs.Filter.Dropped
import Soql.Proofs.Query.Literal
import Soql.Proofs.Filter.Quoted
import Soql.Proofs.Filter.Joining
import Soql.Proofs.Filter.Unread
import Soql.Proofs.Filter.Bare
import Soql.Proofs.SignIn.Overtaken
import Soql.Proofs.SignIn.Redirect
import Soql.Proofs.SignIn.Address
import Soql.Proofs.Api.Intact
import Soql.Proofs.Session.Status
import Soql.Proofs.Query.Wire
import Soql.Proofs.Service.Compile
import Soql.Proofs.Service.Malformed
import Soql.Proofs.SignIn.Instance
import Soql.Proofs.Store.Expiry
import Soql.Proofs.Service.Panic
import Soql.Proofs.Query.Numerals
import Soql.Proofs.Query.Rewording
import Soql.Proofs.Query.Limit
