import KnxDemo.Arithmetic.Rounding
import KnxDemo.Bytes
import KnxDemo.Checksum.ShiftRegister
import KnxDemo.Checksum.XorLinear
import KnxDemo.Com.Acknowledgement
import KnxDemo.Com.BitwiseChecksum
import KnxDemo.Com.Checksum
import KnxDemo.Com.Chunks
import KnxDemo.Com.DecidingReport
import KnxDemo.Com.Decoding
import KnxDemo.Com.Delivery
import KnxDemo.Com.Discipline
import KnxDemo.Com.Encoding
import KnxDemo.Com.ErrorDetection
import KnxDemo.Com.Grammar
import KnxDemo.Com.OpenLight
import KnxDemo.Com.Pack
import KnxDemo.Com.PacketBounds
import KnxDemo.Com.PacketSafety
import KnxDemo.Interaction.Buffer
import KnxDemo.Interaction.Interference
import KnxDemo.Interaction.Loader
import KnxDemo.Knx.Channel
import KnxDemo.Knx.Client
import KnxDemo.Knx.FalseSuccess
import KnxDemo.Knx.Fields
import KnxDemo.Knx.FrameFields
import KnxDemo.Knx.FrameLength
import KnxDemo.Knx.GroupAddress
import KnxDemo.Knx.GroupValue
import KnxDemo.Knx.KeepAlive
import KnxDemo.Knx.Malformed
import KnxDemo.Knx.ParserBounds
import KnxDemo.Knx.PeerFrames
import KnxDemo.Knx.Peers
import KnxDemo.Knx.RoundTrip
import KnxDemo.Knx.Services
import KnxDemo.Knx.StackContent
import KnxDemo.Toolkit.BufferLikeString
import KnxDemo.Toolkit.EventLoop
import KnxDemo.Toolkit.PollerSleep
import KnxDemo.Toolkit.PollerWakeup
import KnxDemo.Toolkit.Socket
import KnxDemo.Toolkit.ThreadLoad
import KnxDemo.Toolkit.ThreadPool
