import MaeRtc.Call.EvenDistribution
import MaeRtc.Call.NetworkStateDelivery
import MaeRtc.CongestionController.FeedbackNumbering
import MaeRtc.CongestionController.InFlightAccounting
import MaeRtc.DcSctp.ClosedSocket
import MaeRtc.DcSctp.ReassemblyConsistency
import MaeRtc.DcSctp.ReceiveWindow
import MaeRtc.DcSctp.Reliability
import MaeRtc.DcSctp.RetransmissionTimeout
import MaeRtc.DcSctp.SelectiveAck
import MaeRtc.GoogCc.EarlyWarning
import MaeRtc.GoogCc.OverusePublication
import MaeRtc.GoogCc.SlopeCap
import MaeRtc.H264.BufferPolicy
import MaeRtc.H264.KeyFrames
import MaeRtc.Pacing.PacketScheduling
import MaeRtc.RemoteBitrate.ArrivalMapRuns
import MaeRtc.Rtp.PacketizationRoundTrip
import MaeRtc.Rtp.StreamStatistician
import MaeRtc.Video.SuspensionReports
import MaeRtc.VideoCoding.FrameProgress
import MaeRtc.VideoCoding.NackLosses
import MaeRtc.VideoCoding.PacketRuns
import MaeRtc.Transport.StunRoundTrip
import MaeRtc.DcSctp.ChunkRoundTrips
import MaeRtc.DcSctp.SkippedMessages
import MaeRtc.VideoCoding.FrameDependencies
import MaeRtc.Rtp.EmulationPrevention
import MaeRtc.Call.RememberedIds
