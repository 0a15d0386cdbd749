import Xrtc.Lib.Run
import Xrtc.Lib.Bytes
import Xrtc.Lib.MachineInt
import Xrtc.Lib.Memory
import Xrtc.Lib.Rfc6184
import Xrtc.Lib.StableSort
import Xrtc.Lib.Grouping
import Xrtc.Lib.ChunkQueue
import Xrtc.Lib.Fuel
import Xrtc.Lib.SortedMap
import Xrtc.Lib.Json
import Xrtc.Lib.RoundRobin
import Xrtc.Lib.Traced
import Xrtc.Lib.Frames
import Xrtc.Ice.Stun
import Xrtc.Ice.IntegrityAccess
import Xrtc.Ice.IceTransportChannel
import Xrtc.Ice.UdpPort
import Xrtc.Stream.RtcStreamManager
import Xrtc.Stream.SetAnswer
import Xrtc.Rtp.RtpFormatH264
import Xrtc.Rtp.Nack
import Xrtc.Sdk.VideoSender
import Xrtc.Sdk.SessionDescription
import Xrtc.Sdk.Signaling
import Xrtc.Proofs.Sdk.Retransmission
import Xrtc.Server.SignalingWorker
import Xrtc.Server.QueryBuf
import Xrtc.Server.Reply
import Xrtc.Server.Connections
import Xrtc.Server.WriteReply
import Xrtc.Server.RtcServer
import Xrtc.Go.Xrpc
import Xrtc.Pc.PeerConnectionDef
import Xrtc.Pc.SrtpTransport
import Xrtc.Pc.SessionDescription
import Xrtc.Pc.TransportState
import Xrtc.Pc.DtlsTransport
import Xrtc.Pc.TransportController
import Xrtc.Base.StringEncode
import Xrtc.Base.AsyncUdpSocket
import Xrtc.Base.LockFreeQueue
import Xrtc.Pc.SdpText
import Xrtc.Pc.HostCandidate
import Xrtc.Pc.PeerConnection
import Xrtc.Proofs.Rtp.NalUnits
import Xrtc.Proofs.Rtp.NaiveScan
import Xrtc.Proofs.Rtp.SplitAboutEqual
import Xrtc.Proofs.Rtp.SplitCorrect
import Xrtc.Proofs.Rtp.Groups
import Xrtc.Proofs.Rtp.RoundTrip
import Xrtc.Proofs.Rtp.InBounds
import Xrtc.Proofs.Rtp.PayloadSize
import Xrtc.Proofs.Rtp.PacketLimits
import Xrtc.Proofs.Stream.RtcStreamManager
import Xrtc.Proofs.Server.SignalingWorker
import Xrtc.Proofs.Server.RequestFraming
import Xrtc.Proofs.Server.ReadRoom
import Xrtc.Proofs.Server.ReplyFraming
import Xrtc.Proofs.Server.OfferReplies
import Xrtc.Proofs.Server.WriteReply
import Xrtc.Proofs.Server.Routing
import Xrtc.Proofs.Ice.ChannelState
import Xrtc.Proofs.Ice.SelectedConnection
import Xrtc.Proofs.Ice.Authentication
import Xrtc.Proofs.Ice.StunWalk
import Xrtc.Proofs.Ice.AttributeGrammar
import Xrtc.Proofs.Ice.IntegrityBounds
import Xrtc.Proofs.Ice.StunRoundTrip
import Xrtc.Proofs.Ice.StunIntegrity
import Xrtc.Proofs.Ice.AnswerOrder
import Xrtc.Proofs.Ice.ErrorCode
import Xrtc.Proofs.Ice.AddressMap
import Xrtc.Proofs.Ice.ConnectionCalls
import Xrtc.Proofs.Ice.PingCredit
import Xrtc.Proofs.Ice.Receiving
import Xrtc.Proofs.Ice.RequestLifetime
import Xrtc.Proofs.Ice.WriteTimeout
import Xrtc.Proofs.Ice.PairPriority
import Xrtc.Proofs.Ice.ConnectionSort
import Xrtc.Proofs.Ice.PingFairness
import Xrtc.Proofs.Pc.TransportActions
import Xrtc.Proofs.Pc.ConnectionState
import Xrtc.Proofs.Pc.SrtpKeys
import Xrtc.Proofs.Base.StringEncode
import Xrtc.Proofs.Base.AsyncUdpSocket
import Xrtc.Proofs.Base.LockFreeQueue
import Xrtc.Proofs.Pc.RemoteSdp
import Xrtc.Proofs.Pc.AttributeLines
import Xrtc.Proofs.Pc.AcceptedAnswer
import Xrtc.Proofs.Pc.SetRemoteSdp
import Xrtc.Proofs.Pc.DtlsStart
import Xrtc.Proofs.Pc.DtlsWritable
import Xrtc.Proofs.Pc.InertLines
import Xrtc.Proofs.Pc.Demux
import Xrtc.Proofs.Pc.Tracks
import Xrtc.Proofs.Pc.RecordFraming
import Xrtc.Proofs.Sdk.AnswerParsed
import Xrtc.Proofs.Sdk.CandidateLine
import Xrtc.Proofs.Stream.SetAnswer
import Xrtc.Sdk.RtpRtcp
import Xrtc.Sdk.VideoCall
import Xrtc.Sdk.RtcpCompound
import Xrtc.Sdk.X264EncoderFilter
import Xrtc.Sdk.XrtcJson
import Xrtc.Proofs.Sdk.JsonText
import Xrtc.Proofs.Sdk.XrtcJson
import Xrtc.Rtp.RtcpPacket
import Xrtc.Sdk.RtcpReceiver
import Xrtc.Proofs.Sdk.SenderReports
import Xrtc.Proofs.Sdk.RtcpCompound
import Xrtc.Proofs.Sdk.X264EncoderFilter
import Xrtc.Proofs.Sdk.SenderReportCounts
import Xrtc.Proofs.Sdk.LineTerminators
import Xrtc.Proofs.Sdk.OfferLines
import Xrtc.Proofs.Sdk.OfferParsed
import Xrtc.Proofs.Sdk.OfferRecovered
import Xrtc.Proofs.Sdk.RtcpBlocks
import Xrtc.Proofs.Sdk.RtcpFrames
import Xrtc.Proofs.Sdk.RtcpPadding
import Xrtc.Proofs.Sdk.SsrcFilter
import Xrtc.Rtp.RtpUtils
import Xrtc.Pc.MediaPath
import Xrtc.Stream.MediaWorker
import Xrtc.Stream.NetworkWorker
import Xrtc.Proofs.Pc.Signals
import Xrtc.Proofs.Pc.MediaPath
import Xrtc.Proofs.Stream.MediaWorker
import Xrtc.Proofs.Stream.Forwarding
import Xrtc.Lib.Rfc3550
import Xrtc.Sdk.RtpPacketBuffer
import Xrtc.Proofs.Sdk.RtpPacketBuffer
import Xrtc.Proofs.Sdk.Datagrams
import Xrtc.Proofs.Sdk.WireStreams
import Xrtc.Ice.ChannelPackets
import Xrtc.Proofs.Ice.ChannelPackets
import Xrtc.Proofs.Ice.ChannelSignals
import Xrtc.Proofs.Pc.ChannelValues
import Xrtc.Proofs.Stream.WorkerStreams
import Xrtc.Proofs.Stream.NetworkWorker
import Xrtc.Proofs.Pc.PrintedTracks
import Xrtc.Proofs.Stream.TrackLines
import Xrtc.Proofs.Stream.TransportLines
import Xrtc.Proofs.Stream.OfferRead
import Xrtc.Proofs.Stream.Announced
import Xrtc.Proofs.Stream.SdkClient
import Xrtc.Proofs.Sdk.Recognized
