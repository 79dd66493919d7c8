import Isa100Gateway.Asl.EncoderBounds
import Isa100Gateway.Asl.ApduBounds
import Isa100Gateway.Asl.RoundTripTimes
import Isa100Gateway.Asl.BandwidthRuns
import Isa100Gateway.Asl.Delivery
import Isa100Gateway.Asl.WindowStall
import Isa100Gateway.Tl.Replay
import Isa100Gateway.Tl.Nonce
import Isa100Gateway.Slme.TxKeySelection
import Isa100Gateway.Slme.NewKeyLifetimes
import Isa100Gateway.Nlme.RowLaw
import Isa100Gateway.Dmo.FailedRequests
import Isa100Gateway.Armo.AlertIds
import Isa100Gateway.Armo.RecoveryRuns
import Isa100Gateway.Gateway.MsgTracker
import Isa100Gateway.Gateway.PublishFreshness
import Isa100Gateway.Gateway.StreamReassembly
import Isa100Gateway.Gateway.PublishDelivery
import Isa100Gateway.Gateway.LeaseConfirms
import Isa100Gateway.Gateway.CacheSoundness
import Isa100Gateway.BackBone.WaitingList
import Isa100Gateway.BackBone.FragmentLoss
import Isa100Gateway.BackBone.CompressionRoundTrip
import Isa100Gateway.BackBone.QueueRuns
import Isa100Gateway.NetworkEngine.RoutingGraph
import Isa100Gateway.NetworkEngine.TreeChanges
import Isa100Gateway.NetworkEngine.EdgeDiagnostics
import Isa100Gateway.NetworkEngine.GraphSync
import Isa100Gateway.NetworkEngine.OutboundGraph
import Isa100Gateway.SystemManager.PDURoundTrip
import Isa100Gateway.SystemManager.EntityRoundTrip
import Isa100Gateway.SystemManager.JoinIsolation
import Isa100Gateway.NetworkEngine.AdmissionRefusals
import Isa100Gateway.NetworkEngine.DependencySafety
import Isa100Gateway.NetworkEngine.AddressRuns
import Isa100Gateway.MonitorHost.PublishedData
import Isa100Gateway.Shared.FrameDelivery
import Isa100Gateway.SystemManager.ContractAgreement
import Isa100Gateway.SystemManager.KeyDelivery
import Isa100Gateway.SystemManager.KeyRuns
import Isa100Gateway.MonitorHost.RequestTracking
import Isa100Gateway.Shared.PipeRoundTrip
import Isa100Gateway.NetworkEngine.AdvertiseRuns
import Isa100Gateway.Crypto.KeyedHash
import Isa100Gateway.Crypto.CcmSizes
import Isa100Gateway.Dmo.ContractTable
import Isa100Gateway.Gateway.RequestLengths
import Isa100Gateway.Gateway.ClientRequest
import Isa100Gateway.Gateway.ReportBuffers
import Isa100Gateway.Gateway.ReportReassembly
import Isa100Gateway.Gateway.BulkDownload
import Isa100Gateway.NetworkEngine.ReservedSlots
import Isa100Gateway.NetworkEngine.MngChunks
import Isa100Gateway.NetworkEngine.CandidateList
import Isa100Gateway.SystemManager.NewestKey
import Isa100Gateway.SystemManager.ChallengeReplay
import Isa100Gateway.Asl.MalformedApdus
import Isa100Gateway.SystemManager.DuplicateRequests
import Isa100Gateway.Shared.PacketBuffer
import Isa100Gateway.SystemManager.FirmwareUpdate
import Isa100Gateway.Asl.SecuredObjects
import Isa100Gateway.Asl.RequestIds
