import LnProxy.Lib.Transition
import LnProxy.Lib.Channel
import LnProxy.Protocol.Frame
import LnProxy.Session.State
import LnProxy.Session.Step
import LnProxy.Session.Cases
import LnProxy.Session.Invariants
import LnProxy.Session.Delivery
import LnProxy.Session.Stall
import LnProxy.Session.Ownership
import LnProxy.Session.Receiver
import LnProxy.Session.Sender
import LnProxy.Session.Frames
import LnProxy.Session.Answers
import LnProxy.Session.Progress
import LnProxy.Lib.Pipe
import LnProxy.Link.Basic
import LnProxy.Link.Invariant
import LnProxy.Link.Fidelity
import LnProxy.Node.Isolation
import LnProxy.Link.Relay
import LnProxy.Link.Cancel
import LnProxy.Node.History
import LnProxy.Node.Selection
import LnProxy.Node.Exits
import LnProxy.Node.LoadArithmetic
import LnProxy.Node.DirectExit
import LnProxy.Node.Enrollment
import LnProxy.Node.Answers
import LnProxy.Lib.LineReader
import LnProxy.Proxy.HTTPConnect
import LnProxy.Lib.UTF8
import LnProxy.Lib.Files
import LnProxy.Lib.Paths
import LnProxy.Lib.Deferred
import LnProxy.Proxy.SOCKS5
import LnProxy.Proxy.Destination
import LnProxy.Protocol.Wire
import LnProxy.Session.Reclaim
import LnProxy.Session.Shutdown
import LnProxy.Session.Truncation
import LnProxy.Session.Closing
import LnProxy.Session.Dispatch
import LnProxy.Node.Release
import LnProxy.Auth.Handshake
import LnProxy.Auth.RateLimit
import LnProxy.Auth.BlockDeadline
import LnProxy.Auth.VerifierFile
import LnProxy.Node.Heartbeats
import LnProxy.Node.ConnectionLimit
import LnProxy.Node.Catalog
import LnProxy.Node.Capacity
import LnProxy.Trust.KnownHosts
import LnProxy.Client.Manager
import LnProxy.Proxy.HostPort
import LnProxy.SystemProxy.Backend
import LnProxy.SystemProxy.RoundTrip
import LnProxy.Client.CrashSafety
import LnProxy.Client.GuardedRestore
import LnProxy.Client.Lifecycle
import LnProxy.Client.Shutdown
import LnProxy.Client.FailedStart
import LnProxy.Config.ServerAddress
import LnProxy.Proxy.Negotiation
import LnProxy.Trust.StoreFile
import LnProxy.Trust.Probe
import LnProxy.Client.DrainCounter
import LnProxy.Logging.Rotation
import LnProxy.Logging.FailedRotation
import LnProxy.Config.Node
import LnProxy.Config.Flags
import LnProxy.Config.Initialize
import LnProxy.Config.Bundle
import LnProxy.Node.EndToEnd
import LnProxy.Trust.Dialing
import LnProxy.Protocol.Writer
import LnProxy.Config.Credentials
import LnProxy.Node.Routing
