import Rflow.Core.Ownership
import Rflow.Core.Recovery
import Rflow.Core.Addressing
import Rflow.Core.Release
import Rflow.Core.LocalScreens
import Rflow.Core.CursorBounds
import Rflow.Core.Drift
import Rflow.Core.CompleteDiagrams
import Rflow.Core.SwitchDelay
import Rflow.Store.CutShort
import Rflow.Store.Interleavings
import Rflow.Runtime.Agreement
import Rflow.Runtime.ClientLoop
import Rflow.Runtime.Admission
import Rflow.Runtime.Intake
import Rflow.Runtime.Superseded
import Rflow.Runtime.Forgetting
import Rflow.Runtime.Disconnects
import Rflow.Runtime.Snapshots
import Rflow.Runtime.Migration
import Rflow.Runtime.HeldSources
import Rflow.Runtime.CursorPlacement
import Rflow.Runtime.PinnedServer
import Rflow.Runtime.Retraction
import Rflow.Runtime.PendingCapture
import Rflow.Runtime.AcceptLoop
import Rflow.Runtime.Supervisor
import Rflow.Core.Pressure
import Rflow.Core.LayoutCommands
import Rflow.Core.Offers
import Rflow.Store.Conversion
import Rflow.Store.WriteHistories
import Rflow.Trust.Commits
import Rflow.Runtime.RateLimit
import Rflow.Runtime.PlacementPrompt
import Rflow.Runtime.OwnScreens
import Rflow.Runtime.Merges
import Rflow.Runtime.ServerTargets
import Rflow.Runtime.MotionPath
import Rflow.Runtime.ClientRetry
import Rflow.Runtime.Shutdown
import Rflow.Cli.LayoutRequests
import Rflow.Cli.PeerCommands
import Rflow.Foundation.Bulletin
import Rflow.Foundation.Files
import Rflow.Input.CaptureStartup
import Rflow.Input.Macos
import Rflow.Input.MacosInjector
import Rflow.Input.MacosMirror
import Rflow.Input.MacosModifiers
import Rflow.Runtime.EventBus
import Rflow.Runtime.ManagementEndpoint
import Rflow.Trust.FreshIdentity
