import ReverseTunnel.Address.Ip
import ReverseTunnel.Address.Network
import ReverseTunnel.Address.Socket
import ReverseTunnel.Bytes
import ReverseTunnel.Capture.Exchange
import ReverseTunnel.Capture.Timestamp
import ReverseTunnel.Client.Config
import ReverseTunnel.Client.Endpoint
import ReverseTunnel.Client.HostLine
import ReverseTunnel.Client.Reconnect
import ReverseTunnel.Client.Relay
import ReverseTunnel.Client.Request
import ReverseTunnel.Client.Resume
import ReverseTunnel.Client.Service
import ReverseTunnel.CommandLine.Arguments
import ReverseTunnel.CommandLine.Client
import ReverseTunnel.CommandLine.Server
import ReverseTunnel.Control.Line
import ReverseTunnel.Control.Message
import ReverseTunnel.Control.Receive
import ReverseTunnel.Control.Rejection
import ReverseTunnel.Domain
import ReverseTunnel.Environment
import ReverseTunnel.Http.Header
import ReverseTunnel.Http.Hop
import ReverseTunnel.Http.Message
import ReverseTunnel.Http.Upgrade
import ReverseTunnel.Http.Uri
import ReverseTunnel.Http.Visitor
import ReverseTunnel.Json.Escape
import ReverseTunnel.Json.Number
import ReverseTunnel.Json.Token
import ReverseTunnel.Json.Tree
import ReverseTunnel.Json.Value
import ReverseTunnel.Main
import ReverseTunnel.Multiplex
import ReverseTunnel.Policy.Basic
import ReverseTunnel.Policy.Credential
import ReverseTunnel.Policy.Field
import ReverseTunnel.Server.Config
import ReverseTunnel.Server.Gateway
import ReverseTunnel.Server.Lifetime
import ReverseTunnel.Server.Limiter
import ReverseTunnel.Server.Plan
import ReverseTunnel.Server.PortRange
import ReverseTunnel.Server.RateLimiter
import ReverseTunnel.Server.Registry
import ReverseTunnel.Server.Rehearsal
import ReverseTunnel.Server.Session
import ReverseTunnel.Server.Settings
import ReverseTunnel.Server.State
import ReverseTunnel.Server.Store
import ReverseTunnel.Stream.Bridge
import ReverseTunnel.Stream.Copy
import ReverseTunnel.Stream.Direction
import ReverseTunnel.Stream.Preview
import ReverseTunnel.Stream.Source
import ReverseTunnel.Table
import ReverseTunnel.Text.Base64
import ReverseTunnel.Text.Basic
import ReverseTunnel.Text.Number
import ReverseTunnel.Text.Quoted
import ReverseTunnel.Text.Split
import ReverseTunnel.Text.Unprintable
import ReverseTunnel.Text.Utf8
import ReverseTunnel.Tls.Certificate
import ReverseTunnel.Tls.Element
import ReverseTunnel.Tls.Key
import ReverseTunnel.Tls.Name
import ReverseTunnel.Tls.Pem
import ReverseTunnel.Tls.Setup
import ReverseTunnel.Toml.Document
import ReverseTunnel.Toml.File
import ReverseTunnel.Toml.Scalar
import ReverseTunnel.Toml.Text
import ReverseTunnel.Toml.Value
import ReverseTunnel.TunnelError
import ReverseTunnel.Proofs.Client.Comeback
import ReverseTunnel.Proofs.Client.Resumption
import ReverseTunnel.Proofs.Control.Framing
import ReverseTunnel.Proofs.Control.Message
import ReverseTunnel.Proofs.Control.Receive
import ReverseTunnel.Proofs.Control.RoundTrip
import ReverseTunnel.Proofs.Domain
import ReverseTunnel.Proofs.Http.Fields
import ReverseTunnel.Proofs.Http.Plain
import ReverseTunnel.Proofs.Http.Target
import ReverseTunnel.Proofs.Json.Numbers
import ReverseTunnel.Proofs.Json.Reading
import ReverseTunnel.Proofs.Json.Strings
import ReverseTunnel.Proofs.Json.Width
import ReverseTunnel.Proofs.Policy.Reading
import ReverseTunnel.Proofs.Policy.Reporting
import ReverseTunnel.Proofs.Server.Access
import ReverseTunnel.Proofs.Server.Alone
import ReverseTunnel.Proofs.Server.Candor
import ReverseTunnel.Proofs.Server.Capacity
import ReverseTunnel.Proofs.Server.Claim
import ReverseTunnel.Proofs.Server.Compliance
import ReverseTunnel.Proofs.Server.Conduct
import ReverseTunnel.Proofs.Server.Course
import ReverseTunnel.Proofs.Server.Delivery
import ReverseTunnel.Proofs.Server.Discipline
import ReverseTunnel.Proofs.Server.Effect
import ReverseTunnel.Proofs.Server.Forwarding
import ReverseTunnel.Proofs.Server.Grounds
import ReverseTunnel.Proofs.Server.History
import ReverseTunnel.Proofs.Server.Holdings
import ReverseTunnel.Proofs.Server.Remnant
import ReverseTunnel.Proofs.Server.Reservation
import ReverseTunnel.Proofs.Server.Slots
import ReverseTunnel.Proofs.Text.Normal
import ReverseTunnel.Proofs.Text.Split
import ReverseTunnel.Proofs.Text.Utf8
import ReverseTunnel.Proofs.Client.Persistence
import ReverseTunnel.Proofs.Client.Understanding
import ReverseTunnel.Proofs.Server.Spelling
import ReverseTunnel.Proofs.Server.Precedence
import ReverseTunnel.Proofs.Policy.Changes
import ReverseTunnel.Proofs.Server.HopByHop
import ReverseTunnel.Proofs.Address.Block
import ReverseTunnel.Proofs.Policy.Ranges
import ReverseTunnel.Proofs.Server.Startup
import ReverseTunnel.Proofs.Server.Payment
import ReverseTunnel.Proofs.Server.Turnover
import ReverseTunnel.Proofs.Text.Base64
import ReverseTunnel.Proofs.Policy.Credential
import ReverseTunnel.Proofs.Server.Secrecy
import ReverseTunnel.Proofs.Http.Token
import ReverseTunnel.Proofs.Policy.Faults
import ReverseTunnel.Proofs.Policy.WellFormed
import ReverseTunnel.Proofs.Json.Fields
import ReverseTunnel.Proofs.Control.Decoding
import ReverseTunnel.Proofs.Stream.Reading
import ReverseTunnel.Proofs.Client.Head
import ReverseTunnel.Proofs.Client.HostLine
import ReverseTunnel.Proofs.Client.HostCopy
import ReverseTunnel.Proofs.Address.Print
import ReverseTunnel.Proofs.Http.Visitor
import ReverseTunnel.Proofs.Server.Pacing
import ReverseTunnel.Proofs.Server.PortScan
import ReverseTunnel.Proofs.Stream.Direction
import ReverseTunnel.Proofs.Stream.Bridge
import ReverseTunnel.Proofs.Client.Copying
import ReverseTunnel.Proofs.Client.Watching
import ReverseTunnel.Proofs.Text.Number
import ReverseTunnel.Proofs.Capture.Summary
import ReverseTunnel.Proofs.Http.Authority
import ReverseTunnel.Proofs.Client.Endpoint
import ReverseTunnel.Proofs.Client.Service
import ReverseTunnel.Proofs.Server.Resolution
