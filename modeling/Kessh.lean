import Kessh.App.LynxClients
import Kessh.App.PageClients
import Kessh.App.Sessions
import Kessh.Host.Catalogue
import Kessh.Host.CatalogueRefinement
import Kessh.Host.HostInvariant
import Kessh.Host.KesshHost
import Kessh.Host.LynxPages
import Kessh.Host.Metrics
import Kessh.Host.PasswordBinding
import Kessh.Host.PortParsing
import Kessh.Host.Secrecy
import Kessh.Host.SettingsPatches
import Kessh.Host.SettingsScreens
import Kessh.Host.SettingsSwitches
import Kessh.Host.Validation
import Kessh.Lib.Base64
import Kessh.Lib.BinaryString
import Kessh.Lib.BlockCipher
import Kessh.Lib.Clients
import Kessh.Lib.Columns
import Kessh.Lib.Ecma
import Kessh.Lib.Ending
import Kessh.Lib.Heartbeat
import Kessh.Lib.Interaction
import Kessh.Lib.Ipv4
import Kessh.Lib.Labelled
import Kessh.Lib.Ledger
import Kessh.Lib.LongListing
import Kessh.Lib.Number
import Kessh.Lib.Numerals
import Kessh.Lib.Pending
import Kessh.Lib.PosixShell
import Kessh.Lib.RegExp
import Kessh.Lib.RegExpSearch
import Kessh.Lib.Registry
import Kessh.Lib.SlashPath
import Kessh.Lib.Utf16
import Kessh.Lib.Utf8
import Kessh.Lib.Word32
import Kessh.Lynx.HostSessions
import Kessh.Lynx.Listings
import Kessh.Lynx.MonitorMetrics
import Kessh.Lynx.MonitorPage
import Kessh.Lynx.ScpPage
import Kessh.Lynx.SftpPage
import Kessh.Lynx.TerminalPage
import Kessh.Lynx.UseAsync
import Kessh.Native.BlockingMode
import Kessh.Native.Calls
import Kessh.Native.Custody
import Kessh.Native.Diagnostics
import Kessh.Native.Engine
import Kessh.Native.Obedience
import Kessh.Native.OpenSession
import Kessh.Native.Operations
import Kessh.Native.Ownership
import Kessh.Native.OwnershipCalls
import Kessh.Native.OwnershipTable
import Kessh.Native.ProbeCustody
import Kessh.Native.Reachability
import Kessh.Native.ReadLoops
import Kessh.Native.RemotePaths
import Kessh.Native.SessionOwnership
import Kessh.Native.SessionRuns
import Kessh.Native.TableErrands
import Kessh.Native.TableRuns
import Kessh.Native.TerminalStreams
import Kessh.Native.Traces
import Kessh.Native.World
import Kessh.Native.WriteLoop
import Kessh.Pages.ConnectFlow
import Kessh.Pages.FailedListings
import Kessh.Pages.KeepaliveParity
import Kessh.Pages.KeepaliveTimers
import Kessh.Pages.ListingParity
import Kessh.Pages.LsOutput
import Kessh.Pages.MetricsParity
import Kessh.Pages.MonitorHistories
import Kessh.Pages.MonitorMetrics
import Kessh.Pages.MonitorPage
import Kessh.Pages.Navigation
import Kessh.Pages.QuickConnect
import Kessh.Pages.ScpPage
import Kessh.Pages.ScpTransfers
import Kessh.Pages.SftpPage
import Kessh.Pages.ShownPaths
import Kessh.Pages.Terminal
import Kessh.Pages.TerminalInput
import Kessh.Pages.TerminalSessions
import Kessh.Pages.TransferStatus
import Kessh.Store.AccountManager
import Kessh.Store.ConnectionInvariant
import Kessh.Store.Connections
import Kessh.Store.Keys
import Kessh.Store.Model
import Kessh.Store.RecordDrafts
import Kessh.Store.SecurityUtils
import Kessh.Store.Settings
import Kessh.Tools.Base64RoundTrip
import Kessh.Tools.Base64Tool
import Kessh.Tools.ProbePages
import Kessh.Tools.SubnetCalc
import Kessh.Tools.SubnetInput
import Kessh.Tools.SubnetLaws
import Kessh.Tools.SubnetParity
import Kessh.WebSocket.Answered
import Kessh.WebSocket.Client
import Kessh.WebSocket.Grammar
import Kessh.WebSocket.Input
import Kessh.WebSocket.Output
import Kessh.WebSocket.ProxiedClient
import Kessh.WebSocket.Proxy
import Kessh.WebSocket.Superseded
import Kessh.WebSocket.TestPage
