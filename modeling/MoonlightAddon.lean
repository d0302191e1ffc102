import MoonlightAddon.Effect
import MoonlightAddon.Core.Transport
import MoonlightAddon.Core.Wire
import MoonlightAddon.Interleaving
import MoonlightAddon.Addon.Proto
import MoonlightAddon.Core.Commands
import MoonlightAddon.Core.Libraries
import MoonlightAddon.Core.NvHttp
import MoonlightAddon.Core.Pairing
import MoonlightAddon.Core.Stream
import MoonlightAddon.Core.Session
import MoonlightAddon.Addon.Main
import MoonlightAddon.Sidecar
import MoonlightAddon.Core.HexPanic
import MoonlightAddon.Worker.Phase
import MoonlightAddon.Worker.Discipline
import MoonlightAddon.Responder
import MoonlightAddon.Worker.Conversation
import MoonlightAddon.Worker.Prompt
import MoonlightAddon.Worker.Release
import MoonlightAddon.Core.PairingSoundness
import MoonlightAddon.Core.HonestHost
import MoonlightAddon.Addon.Framing
import MoonlightAddon.Addon.Writer
import MoonlightAddon.Addon.RoundTrip
import MoonlightAddon.Main.Phase
import MoonlightAddon.Main.Discipline
import MoonlightAddon.Sidecar.Runs
import MoonlightAddon.Sidecar.Tracking
import MoonlightAddon.Sidecar.Isolation
import MoonlightAddon.Sidecar.Shutdown
import MoonlightAddon.Sidecar.Connection
import MoonlightAddon.Sidecar.Routing
import MoonlightAddon.Conveyor
import MoonlightAddon.Sidecar.Pipeline
import MoonlightAddon.Addon.Exactness
import MoonlightAddon.Addon.Alignment
import MoonlightAddon.Sidecar.StopCheck
import MoonlightAddon.Sidecar.HostEnding
import MoonlightAddon.Sidecar.Exclusion
import MoonlightAddon.Main.Surroundings
import MoonlightAddon.Main.Account
import MoonlightAddon.Main.Dispatch
import MoonlightAddon.Main.Observed
import MoonlightAddon.Main.Hello
import MoonlightAddon.Main.Custody
import MoonlightAddon.Main.Inert
import MoonlightAddon.Core.Errors
import MoonlightAddon.Worker.Reasons
import MoonlightAddon.Sidecar.Attribution
import MoonlightAddon.Blocks
import MoonlightAddon.SecureHash
import MoonlightAddon.Xtask.Sha256
import MoonlightAddon.Xtask.Compression
import MoonlightAddon.Xtask.Streaming
import MoonlightAddon.Addon.FrameLayout
import MoonlightAddon.Addon.SizeGuard
import MoonlightAddon.Recorder
import MoonlightAddon.Sidecar.Installation
import MoonlightAddon.Core.Buttons
import MoonlightAddon.Core.Keys
import MoonlightAddon.Core.Identity
import MoonlightAddon.Worker.Identity
import MoonlightAddon.Confined
import MoonlightAddon.Query
import MoonlightAddon.Core.Urls
import MoonlightAddon.Core.Requests
import MoonlightAddon.Core.LaunchQuery
import MoonlightAddon.Core.Apps
import MoonlightAddon.Core.Elements
import MoonlightAddon.Core.HexText
import MoonlightAddon.Worker.Footprint
import MoonlightAddon.Worker.Draws
import MoonlightAddon.Worker.Origins
import MoonlightAddon.Reaches
import MoonlightAddon.Worker.Narrowing
import MoonlightAddon.Sidecar.Ownership
import MoonlightAddon.Sidecar.Ledger
import MoonlightAddon.Observer
import MoonlightAddon.Sidecar.Service
import MoonlightAddon.Sidecar.Threads
import MoonlightAddon.Allowance
import MoonlightAddon.Worker.WindDown
import MoonlightAddon.Sidecar.WindDown
import MoonlightAddon.Main.Farewell
import MoonlightAddon.Sidecar.Exit
import MoonlightAddon.Worker.Launching
import MoonlightAddon.Worker.Choice
import MoonlightAddon.Worker.Destinations
import MoonlightAddon.Sidecar.Traffic
import MoonlightAddon.Core.InfoDocument
import MoonlightAddon.Worker.Admission
import MoonlightAddon.Worker.Vouching
import MoonlightAddon.Sidecar.Admission
import MoonlightAddon.Solo
import MoonlightAddon.Sidecar.Alone
import MoonlightAddon.Sidecar.Recovery
import MoonlightAddon.Xtask.FileDigest
import MoonlightAddon.Main.Operator
import MoonlightAddon.Main.Console
import MoonlightAddon.Sidecar.Inputs
import MoonlightAddon.Sidecar.Delivery
