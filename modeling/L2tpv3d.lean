import L2tpv3d.Py.Effects
import L2tpv3d.Py.Struct
import L2tpv3d.Py.Dict
import L2tpv3d.Py.Text
import L2tpv3d.Wire.Avp
import L2tpv3d.Wire.Messages
import L2tpv3d.Wire.Codec
import L2tpv3d.Wire.Auth
import L2tpv3d.Wire.Digest
import L2tpv3d.Wire.Hidden
import L2tpv3d.Wire.Builders
import L2tpv3d.Wire.CallFields
import L2tpv3d.Wire.Typed
import L2tpv3d.Lib.Transition
import L2tpv3d.Lib.Serial
import L2tpv3d.Lib.Channel
import L2tpv3d.Lib.Checks
import L2tpv3d.Lib.Backoff
import L2tpv3d.Transport.Peer
import L2tpv3d.Transport.Link
import L2tpv3d.Transport.Window
import L2tpv3d.Transport.Recovery
import L2tpv3d.Transport.Schedule
import L2tpv3d.Fsm.Tunnel
import L2tpv3d.Fsm.Session
import L2tpv3d.Fsm.Handshake
import L2tpv3d.Fsm.Moves
import L2tpv3d.Fsm.Call
import L2tpv3d.Fsm.Outcome
import L2tpv3d.Fsm.Sendable
import L2tpv3d.Daemon.Config
import L2tpv3d.Daemon.Loader
import L2tpv3d.Daemon.Dataplane
import L2tpv3d.Daemon.Tunnel
import L2tpv3d.Daemon.Frame
import L2tpv3d.Daemon.Handlers
import L2tpv3d.Daemon.Mirror
import L2tpv3d.Daemon.Pseudowire
import L2tpv3d.Daemon.Signing
import L2tpv3d.Daemon.Alike
import L2tpv3d.Daemon.Dispatch
import L2tpv3d.Daemon.Notices
import L2tpv3d.Daemon.PeerCcid
import L2tpv3d.Daemon.Loop
import L2tpv3d.Daemon.Parts
import L2tpv3d.Daemon.Crash
import L2tpv3d.Daemon.Demux
import L2tpv3d.Daemon.Restart
import L2tpv3d.Daemon.Opening
import L2tpv3d.Daemon.Calls
import L2tpv3d.Daemon.Agreement
import L2tpv3d.Daemon.Encapsulation
import L2tpv3d.Daemon.Startup
import L2tpv3d.Daemon.Conversions
import L2tpv3d.Daemon.Faults
import L2tpv3d.Daemon.Isolation
import L2tpv3d.Daemon.Speech
import L2tpv3d.Daemon.Routing
import L2tpv3d.Daemon.Input
import L2tpv3d.Daemon.Index
import L2tpv3d.Daemon.PeerCookie
import L2tpv3d.Daemon.Record
import L2tpv3d.Daemon.IpCommand
import L2tpv3d.Daemon.Commands
import L2tpv3d.Daemon.Requests
import L2tpv3d.Daemon.StandIn
import L2tpv3d.Daemon.Stuck
import L2tpv3d.Daemon.Drain
import L2tpv3d.Daemon.Joined
import L2tpv3d.Daemon.Steady
import L2tpv3d.Daemon.Shared
import L2tpv3d.Daemon.Lockstep
import L2tpv3d.Daemon.Silence
import L2tpv3d.Daemon.Exchange
import L2tpv3d.Daemon.Loadable
import L2tpv3d.Daemon.Refinement
