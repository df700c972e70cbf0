import OngrokRelay.Advertised
import OngrokRelay.ApiAccess
import OngrokRelay.ClientRetry
import OngrokRelay.ConcurrentRegistration
import OngrokRelay.Conveyor
import OngrokRelay.DataStream
import OngrokRelay.DecoderAgreement
import OngrokRelay.Encoding
import OngrokRelay.FailedRegistration
import OngrokRelay.FailedWithdrawal
import OngrokRelay.Forwarding
import OngrokRelay.HopByHop
import OngrokRelay.HostSpelling
import OngrokRelay.IdentityGate
import OngrokRelay.Ingress
import OngrokRelay.LeaseStability
import OngrokRelay.ListedSessions
import OngrokRelay.ListenerConflicts
import OngrokRelay.Listeners
import OngrokRelay.Lockstep
import OngrokRelay.MetricHistory
import OngrokRelay.NodeKeys
import OngrokRelay.NodeRecords
import OngrokRelay.NodeStatus
import OngrokRelay.NodeUpgrade
import OngrokRelay.Ownership
import OngrokRelay.PortAllocation
import OngrokRelay.Postcard
import OngrokRelay.RecentEvents
import OngrokRelay.Reconnect
import OngrokRelay.Relaying
import OngrokRelay.Restart
import OngrokRelay.Revocation
import OngrokRelay.Rotation
import OngrokRelay.SessionTurns
import OngrokRelay.StoreKeys
import OngrokRelay.TokenHistory
import OngrokRelay.Transports
import OngrokRelay.Tunnel
import OngrokRelay.TunnelDelivery
import OngrokRelay.TunnelFlow
import OngrokRelay.Wire
import OngrokRelay.WriteOrder
import OngrokRelay.YamuxDriver
import OngrokRelay.ClientIdentity
import OngrokRelay.Database
import OngrokRelay.ClientRoutes
import OngrokRelay.Supervision
import OngrokRelay.ApiEffects
import OngrokRelay.VisitorStreams
import OngrokRelay.SoundRecords
import OngrokRelay.KnownNodes
import OngrokRelay.YamuxStreams
import OngrokRelay.RetryPace
import OngrokRelay.TunnelRoute
