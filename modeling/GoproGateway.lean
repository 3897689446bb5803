import GoproGateway.Library.ByteBuffer
import GoproGateway.Library.InputMachine
import GoproGateway.Library.Reassembly
import GoproGateway.Library.Interleaving
import GoproGateway.Library.Traced
import GoproGateway.Library.Word32
import GoproGateway.Client.Declarations
import GoproGateway.Packet.Build
import GoproGateway.Packet.BuildSteps
import GoproGateway.Packet.Frames
import GoproGateway.Packet.Refinement
import GoproGateway.Packet.Concatenation
import GoproGateway.Packet.CopyBounds
import GoproGateway.Client.Notify
import GoproGateway.Packet.SharedBuffer
import GoproGateway.Packet.ShortFrames
import GoproGateway.Send.Fragmenter
import GoproGateway.Send.RoundTrip
import GoproGateway.Library.WireFormat
import GoproGateway.Library.WireEncode
import GoproGateway.Client.Commands
import GoproGateway.Client.PbEncoder
import GoproGateway.Gateway.CanRxBle
import GoproGateway.Gateway.Forwarding
import GoproGateway.Gateway.Routing
import GoproGateway.Link.Connection
import GoproGateway.Link.Discovery
import GoproGateway.Link.LeftBehind
import GoproGateway.Link.LiveSession
import GoproGateway.Reply.CanReply
import GoproGateway.Reply.Ownership
import GoproGateway.Reply.TokenKept
import GoproGateway.Link.Scanning
import GoproGateway.Reply.Exclusive
import GoproGateway.Send.Holes
import GoproGateway.Client.Writes
import GoproGateway.Client.WritePending
import GoproGateway.Client.Subscriptions
import GoproGateway.Command.Publishers
import GoproGateway.Command.Path
import GoproGateway.Command.Together
import GoproGateway.Command.Pacing
import GoproGateway.Command.Checked
import GoproGateway.Isotp.Receive
import GoproGateway.Isotp.Handover
import GoproGateway.Isotp.Failures
import GoproGateway.Library.Ledger
import GoproGateway.Packet.HeapLedger
import GoproGateway.State.GoproState
import GoproGateway.Library.Tlv
import GoproGateway.Parse.Status
import GoproGateway.Parse.StatusNotify
import GoproGateway.Parse.StatusReply
import GoproGateway.Parse.HwInfo
import GoproGateway.Parse.HwInfoRoundTrip
import GoproGateway.Parse.HwInfoRejected
import GoproGateway.Parse.Bounds
import GoproGateway.Library.CString
import GoproGateway.State.StringWriters
import GoproGateway.Wifi.DecodeCred
import GoproGateway.State.CStrings
import GoproGateway.Wifi.ConnectAp
import GoproGateway.Wifi.Credentials
import GoproGateway.Wifi.ApChoice
import GoproGateway.Wifi.ApEntries
import GoproGateway.Wifi.ApNames
import GoproGateway.Wifi.ApCollect
import GoproGateway.Send.LengthField
import GoproGateway.Send.BufFraming
import GoproGateway.Packet.Numbering
import GoproGateway.State.CameraName
import GoproGateway.Wifi.StartScanning
import GoproGateway.Reply.RoundTrip
import GoproGateway.Isotp.Reception
import GoproGateway.Isotp.Assembly
import GoproGateway.Isotp.FailedAllocation
import GoproGateway.Library.SortedSearch
import GoproGateway.Library.ChunkPool
import GoproGateway.Gatt.Table
import GoproGateway.Gatt.Lookup
import GoproGateway.Gatt.Manager
import GoproGateway.Gatt.Steps
import GoproGateway.Gatt.Ownership
import GoproGateway.Gatt.Procedure
import GoproGateway.Gatt.Handles
import GoproGateway.Reply.Contents
import GoproGateway.Reply.Deliveries
import GoproGateway.Gateway.Uplink
import GoproGateway.Gateway.UplinkRounds
import GoproGateway.Gateway.Downlink
import GoproGateway.Gateway.DownlinkRounds
import GoproGateway.Wifi.Requests
import GoproGateway.Wifi.Provisioning
import GoproGateway.Link.Filters
import GoproGateway.Link.Aim
import GoproGateway.Library.BinarySemaphore
import GoproGateway.Bus.CanTx
import GoproGateway.Bus.Dashboard
import GoproGateway.Session.Startup
