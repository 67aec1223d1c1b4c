import PureCloak.Launcher.Applying
import PureCloak.Launcher.Ports
import PureCloak.Launcher.World
import PureCloak.Launcher.CommandLine
import PureCloak.WebUI.Handler
import PureCloak.Base.Json
import PureCloak.Content.StoragePartition
import PureCloak.Profiles.Invariants
import PureCloak.Profiles.CrashSafety
import PureCloak.Profiles.Durability
import PureCloak.Launcher.Entries
import PureCloak.Launcher.Capacity
import PureCloak.Launcher.Stopping
import PureCloak.Launcher.Directories
import PureCloak.API.WorkspaceApiHandler
import PureCloak.WebUI.Messages
import PureCloak.WebUI.Batch
import PureCloak.Browser.Dashboard
import PureCloak.Browser.Definitions
import PureCloak.Launcher.IsolationSwitches
import PureCloak.Launcher.Confinement
import PureCloak.Net.Base
import PureCloak.Net.Socks5UdpClientSocket
import PureCloak.Net.DoLoop
import PureCloak.Net.Handshake
import PureCloak.Net.UdpAssociate
import PureCloak.Net.Assertions
import PureCloak.Net.Transcript
import PureCloak.Net.QuicSessionPool
import PureCloak.Content.CDPWebSocketClient
import PureCloak.Content.FrameCodec
import PureCloak.Content.FrameSync
import PureCloak.Content.CommandPipeline
import PureCloak.Launcher.ApplierRuns
import PureCloak.Launcher.Reporting
import PureCloak.Launcher.Sockets
import PureCloak.API.Routes
import PureCloak.API.ApiUnittest
import PureCloak.Library.Pieces
import PureCloak.API.CDPProxyHandler
import PureCloak.API.Authentication
import PureCloak.Net.FirstDatagram
import PureCloak.Net.Datagrams
import PureCloak.Net.Completions
import PureCloak.API.CDPRelay
import PureCloak.API.HalfOpen
import PureCloak.API.ImportExport
import PureCloak.API.RelaySessions
import PureCloak.API.RelayToClient
import PureCloak.Content.ActiveProfile
import PureCloak.Content.PartitionNames
import PureCloak.Profiles.Restoring
import PureCloak.Library.Desk
import PureCloak.API.Responses
import PureCloak.API.ResponseOrder
import PureCloak.Library.HttpHead
import PureCloak.Library.JsLiteral
import PureCloak.Library.JsNumber
import PureCloak.Profiles.Records
import PureCloak.API.WriteRequests
import PureCloak.API.ForwardedRequests
import PureCloak.API.UpgradeDetection
import PureCloak.API.TargetReads
import PureCloak.Launcher.Refusals
import PureCloak.Launcher.Watching
import PureCloak.API.WorkspaceApiServer
import PureCloak.Content.ScriptStrings
import PureCloak.Common.Reinitialization
import PureCloak.Blink.CanvasNoise
import PureCloak.Blink.NoiseDistribution
import PureCloak.Blink.PixelFormats
import PureCloak.Blink.CanvasReads
import PureCloak.Blink.ImageDataIndices
import PureCloak.Dawn.Adapter
import PureCloak.Content.Discovery
import PureCloak.Content.Upgrade
import PureCloak.Content.InjectionScript
import PureCloak.Content.FingerprintLayers
import PureCloak.Content.NoiseScript
import PureCloak.Library.AtomicObject
import PureCloak.API.Linearizability
import PureCloak.WebUI.Cards
import PureCloak.WebUI.CardMarkup
import PureCloak.Library.Dom
import PureCloak.WebUI.Document
import PureCloak.Library.Observers
import PureCloak.Views.SidePanel
import PureCloak.Content.ProfileCDPInjector
import PureCloak.Launcher.Configuring
