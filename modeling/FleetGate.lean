import FleetGate.Text.Quoted
import FleetGate.Number.Layout
import FleetGate.Number.Reading
import FleetGate.Bytes.Unicode
import FleetGate.Bytes.Base64
import FleetGate.Digest.Mac
import FleetGate.Json.Reader
import FleetGate.Json.Writer
import FleetGate.Token.Verify
import FleetGate.Auth.Identity
import FleetGate.Auth.Named
import FleetGate.Http.Path
import FleetGate.Principal.Basic
import FleetGate.Auth.Layer
import FleetGate.Auth.Scope
import FleetGate.Auth.Shared
import FleetGate.Metrics.Loose
import FleetGate.Metrics.Layer
import FleetGate.Metrics.Exposition
import FleetGate.Database.Engine
import FleetGate.Database.Session
import FleetGate.Database.Service
import FleetGate.Service.Handle
import FleetGate.Service.Lifespan
import FleetGate.Proofs.Bytes.Base64
import FleetGate.Proofs.Bytes.Utf8
import FleetGate.Proofs.Json.Nesting
import FleetGate.Proofs.Text.Scalar
import FleetGate.Proofs.Token.Segments
import FleetGate.Proofs.Auth.Failure
import FleetGate.Proofs.Token.Keys
import FleetGate.Proofs.Token.Payload
import FleetGate.Proofs.Token.Verify
import FleetGate.Proofs.Token.SoleKey
import FleetGate.Proofs.Auth.Stages
import FleetGate.Proofs.Auth.Admission
import FleetGate.Proofs.Token.Verbatim
import FleetGate.Proofs.Auth.Escape
import FleetGate.Proofs.Bytes.Utf8Reading
import FleetGate.Proofs.Text.Words
import FleetGate.Proofs.Token.Mint
import FleetGate.Proofs.Auth.Order
import FleetGate.Proofs.Service.Layers
import FleetGate.Proofs.Service.Profile
import FleetGate.Proofs.Auth.Kinds
import FleetGate.Proofs.Metrics.Counts
import FleetGate.Proofs.Metrics.Counting
import FleetGate.Proofs.Metrics.Overlap
import FleetGate.Proofs.Service.Counted
import FleetGate.Proofs.Service.Unmeasured
import FleetGate.Proofs.Number.Integers
import FleetGate.Proofs.Token.Lifetime
import FleetGate.Proofs.Auth.Chain
import FleetGate.Proofs.Auth.Texts
import FleetGate.Proofs.Auth.Scope
import FleetGate.Proofs.Number.Padded
import FleetGate.Proofs.Timestamp.Stored
import FleetGate.Proofs.Json.Strings
import FleetGate.Proofs.Json.TextLists
import FleetGate.Proofs.Database.Cells
import FleetGate.Proofs.Database.Draft
import FleetGate.Proofs.Database.Sent
import FleetGate.Proofs.Database.Rows
import FleetGate.Proofs.Database.Reading
import FleetGate.Proofs.Database.Permissions
import FleetGate.Proofs.Database.History
import FleetGate.Proofs.Database.Lookups
import FleetGate.Proofs.Auth.Grammar
import FleetGate.Proofs.Token.Readings
import FleetGate.Proofs.Bytes.Foreign
import FleetGate.Proofs.Digest.Mac
import FleetGate.Proofs.Token.Spellings
import FleetGate.Proofs.Metrics.Samples
import FleetGate.Proofs.Metrics.History
import FleetGate.Proofs.Metrics.Exposed
import FleetGate.Proofs.Text.Pieces
import FleetGate.Proofs.Http.Guards
import FleetGate.Proofs.Database.Profile
import FleetGate.Proofs.Database.Granted
import FleetGate.Proofs.Metrics.Labels
import FleetGate.Proofs.Service.Scrape
import FleetGate.Proofs.Service.Scrapes
import FleetGate.Proofs.Service.SoleRoutes
import FleetGate.Proofs.Service.Search
import FleetGate.Proofs.Service.Labels
import FleetGate.Proofs.Json.Numbers
import FleetGate.Proofs.Json.RoundTrip
import FleetGate.Proofs.Http.Bodies
import FleetGate.Proofs.Database.Session
import FleetGate.Proofs.Auth.Overlay
import FleetGate.Proofs.Database.Counts
import FleetGate.Proofs.Database.Online
import FleetGate.Proofs.Http.Labels
import FleetGate.Proofs.Config.Sources
import FleetGate.Proofs.Database.Engine
