import JSdnTrace.CallbackOrder
import JSdnTrace.CaptureReport
import JSdnTrace.ClientMain
import JSdnTrace.ClientReports
import JSdnTrace.ContIdLength
import JSdnTrace.DeviceListener
import JSdnTrace.EndToEnd
import JSdnTrace.HopNumbers
import JSdnTrace.Java.ByteBuffer
import JSdnTrace.Java.Bytes
import JSdnTrace.Java.Decimal
import JSdnTrace.Java.Effect
import JSdnTrace.Java.HashMap
import JSdnTrace.Java.Text
import JSdnTrace.Jpcap.CaptureBounds
import JSdnTrace.Jpcap.Checksum
import JSdnTrace.Jpcap.Datagram
import JSdnTrace.Jpcap.Icmp
import JSdnTrace.Jpcap.IpHeader
import JSdnTrace.Jpcap.Receiver
import JSdnTrace.Jpcap.Transport
import JSdnTrace.JpcapFrame
import JSdnTrace.Lib.Channels
import JSdnTrace.Lib.Delimited
import JSdnTrace.Lib.Flood
import JSdnTrace.Lib.KeepFirst
import JSdnTrace.Lib.OnesComplement
import JSdnTrace.Lib.StableTable
import JSdnTrace.Lib.Steps
import JSdnTrace.Lib.Wiring
import JSdnTrace.ModuleRun
import JSdnTrace.NetMap
import JSdnTrace.NetworkFailure
import JSdnTrace.OpenFlow
import JSdnTrace.PacketBytes
import JSdnTrace.PacketEquals
import JSdnTrace.PortStatus
import JSdnTrace.Rejection
import JSdnTrace.Replies
import JSdnTrace.Report
import JSdnTrace.RoundTrip
import JSdnTrace.Routing
import JSdnTrace.Run
import JSdnTrace.Stores
import JSdnTrace.SwitchAdded
import JSdnTrace.SwitchInfo
import JSdnTrace.SwitchRecord
import JSdnTrace.Tests.DummyNetwork
import JSdnTrace.Tests.Flooding
import JSdnTrace.Tests.FlowTable
import JSdnTrace.Tests.Mesh
import JSdnTrace.Tests.Ping
import JSdnTrace.Tests.Reach
import JSdnTrace.Tests.Topologies
import JSdnTrace.Tests.Wires
import JSdnTrace.TraceAppController
import JSdnTrace.TraceClient
import JSdnTrace.TraceFlow
import JSdnTrace.TraceMap
import JSdnTrace.TraceModule
import JSdnTrace.TracePacket
import JSdnTrace.Window
import JSdnTrace.WirePacket
