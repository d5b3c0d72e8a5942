import Vanet.Library.Run
import Vanet.Library.Action
import Vanet.Library.Reader
import Vanet.Library.Decimal
import Vanet.Socktap.Cam
import Vanet.Socktap.Denm
import Vanet.Socktap.Reception
import Vanet.Simulator.Station
import Vanet.Simulator.Leader
import Vanet.Simulator.Handlers
import Vanet.Simulator.HandlerSpecs
import Vanet.Simulator.Loop
import Vanet.Simulator.Network
import Vanet.Simulator.Leadership
import Vanet.Simulator.Members
import Vanet.Simulator.Robustness
import Vanet.Simulator.Positions
import Vanet.Simulator.JoinReply
import Vanet.Security.Rejection
import Vanet.Security.ByteCount
import Vanet.Security.Soundness
import Vanet.Security.TicketCache
import Vanet.Security.NaiveCertificateProvider
import Vanet.Dcc.Gate
import Vanet.Dcc.BurstBudget
import Vanet.Dcc.Conservation
import Vanet.Geonet.SoftState
import Vanet.Geonet.Convergence
import Vanet.Geonet.CbfTimers
import Vanet.Geonet.DataRequest
import Vanet.Geonet.Effects
import Vanet.Geonet.PassUp
import Vanet.Geonet.StrictSecurity
import Vanet.Geonet.Network
import Vanet.Geonet.Boundary
import Vanet.Geonet.Detection
import Vanet.Geonet.Suppression
import Vanet.Library.Delimited
import Vanet.Security.LengthEncoding
import Vanet.Security.SignService
import Vanet.Security.Unambiguous
import Vanet.Geonet.Atomicity
import Vanet.Geonet.CbfContents
import Vanet.Geonet.Contention
import Vanet.Geonet.ContentionLedger
import Vanet.Geonet.DestinationArea
import Vanet.Geonet.Greedy
import Vanet.Geonet.HeaderCodec
import Vanet.Geonet.LifetimeConsumption
import Vanet.Library.Circle
import Vanet.Security.Consistency
import Vanet.Security.GenerationTime
import Vanet.Security.MessageRoundTrip
import Vanet.Simulator.Behind
import Vanet.Simulator.Campaign
import Vanet.Simulator.LeaderCheck
import Vanet.Simulator.Journey
import Vanet.Socktap.CamTimer
import Vanet.Geonet.Rebroadcast
import Vanet.Security.Permissions
import Vanet.Security.SignHeaderPolicy
import Vanet.Security.CacheHistory
import Vanet.Security.LengthCodec
import Vanet.Geonet.LifetimeCodec
import Vanet.Geonet.GbcMemory
import Vanet.Geonet.LeavingAlive
import Vanet.Common.LruCache
import Vanet.Socktap.BitString
import Vanet.Geonet.CbrAggregator
import Vanet.Dcc.Limeric
import Vanet.Dcc.LimericBudget
import Vanet.Dcc.GradualStateMachine
import Vanet.Dcc.FullyMeshedStateMachine
import Vanet.Dcc.WakeUp
import Vanet.Common.Scheduling
import Vanet.Geonet.Repeater
import Vanet.Geonet.Executions
import Vanet.Geonet.RepetitionLedger
import Vanet.Geonet.Repetition
import Vanet.Geonet.SoftStateRuns
import Vanet.Net.MacAddress
import Vanet.Net.CohesivePacket
import Vanet.Socktap.RawSocketLink
import Vanet.Socktap.CodecGeneration
import Vanet.Facilities.MirroredPath
import Vanet.Facilities.PathEncoding
import Vanet.Geonet.DuplicateWindow
import Vanet.Dcc.LimericPeriod
import Vanet.Security.SecurityEntity
import Vanet.Security.Acceptance
import Vanet.Security.Recognition
import Vanet.Security.Exchange
import Vanet.Security.Acquaintance
import Vanet.Security.Agreement
import Vanet.Geonet.Announcing
import Vanet.Geonet.Arrival
import Vanet.Geonet.Beaconing
import Vanet.Geonet.Conveying
import Vanet.Geonet.Endurance
import Vanet.Geonet.EnduringRuns
import Vanet.Geonet.DccInformationSharing
import Vanet.Geonet.Hearsay
import Vanet.Geonet.Neighbourhood
import Vanet.Btp.Header
import Vanet.Btp.PortDispatcher
import Vanet.Socktap.RouterContext
import Vanet.Socktap.Delivery
