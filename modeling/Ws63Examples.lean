import Ws63Examples.Lib.Bits
import Ws63Examples.Lib.Execution
import Ws63Examples.Lib.History
import Ws63Examples.Lib.Loop
import Ws63Examples.Lib.OnesComplement
import Ws63Examples.Lib.Pacing
import Ws63Examples.Lib.Periodic
import Ws63Examples.Lib.ResourceRecord
import Ws63Examples.Lib.Retention
import Ws63Examples.Lib.Ring
import Ws63Examples.Lib.Samples
import Ws63Examples.Lib.Slice
import Ws63Examples.Lib.Text
import Ws63Examples.Lib.Watchdog
import Ws63Examples.Lib.Wire
import Ws63Examples.Lib.Word
import Ws63Examples.Lib.Words
import Ws63Examples.Smoltcp
import Ws63Examples.FrameDiagnostics
import Ws63Examples.TxTimeline
import Ws63Examples.InitSmoke.Checksum
import Ws63Examples.InitSmoke.EchoRequests
import Ws63Examples.InitSmoke.Flush
import Ws63Examples.InitSmoke.PingAccounts
import Ws63Examples.InitSmoke.PingSeries
import Ws63Examples.InitSmoke.PingStats
import Ws63Examples.InitSmoke.PollNetwork
import Ws63Examples.InitSmoke.RomFallbacks
import Ws63Examples.InitSmoke.RunPingSeries
import Ws63Examples.InitSmoke.VendorLog
import Ws63Examples.Connectivity.Config
import Ws63Examples.Connectivity.DnsContract
import Ws63Examples.Connectivity.DnsProbe
import Ws63Examples.Connectivity.DnsRecords
import Ws63Examples.Connectivity.Events
import Ws63Examples.Connectivity.KeepPolling
import Ws63Examples.Connectivity.LocalProbe
import Ws63Examples.Connectivity.PollNetwork
import Ws63Examples.Connectivity.ProbePacing
import Ws63Examples.Connectivity.Renewal
import Ws63Examples.Connectivity.Runner
import Ws63Examples.Connectivity.Scan
import Ws63Examples.Connectivity.Sessions
import Ws63Examples.Connectivity.StaleEvents
import Ws63Examples.Connectivity.Station
import Ws63Examples.Connectivity.TxTimeline
import Ws63Examples.Attempts
import Ws63Examples.TimelineReaders
import Ws63Examples.Softap.Acceptance
import Ws63Examples.Softap.Coexistence
import Ws63Examples.Softap.Dhcp
import Ws63Examples.Softap.DhcpReply
import Ws63Examples.Softap.DhcpWire
import Ws63Examples.Softap.Echo
import Ws63Examples.Softap.Network
import Ws63Examples.Softap.ServiceLoop
import Ws63Examples.Softap.TxTimeline
import Ws63Examples.NetPing.Mac
import Ws63Examples.NetPing.Program
import Ws63Examples.TwoBoard.Capacity
import Ws63Examples.TwoBoard.Echo
import Ws63Examples.Lib.Memory
import Ws63Examples.NetPing.Frames
import Ws63Examples.NetPing.Verdict
import Ws63Examples.InitSmoke.ArpProbe
import Ws63Examples.InitSmoke.ArpPings
import Ws63Examples.InitSmoke.NetworkRunner
import Ws63Examples.InitSmoke.NetworkLease
import Ws63Examples.InitSmoke.NetworkPings
import Ws63Examples.InitSmoke.SteadyState
import Ws63Examples.InitSmoke.SmokeLog
import Ws63Examples.InitSmoke.SmokeOutcome
import Ws63Examples.DecimalWriters
import Ws63Examples.HexWriters
import Ws63Examples.InitSmoke.RomCallbacks
import Ws63Examples.Connectivity.Inventory
import Ws63Examples.IrqCounters
