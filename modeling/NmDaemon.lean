import NmDaemon.AdmissionHistory
import NmDaemon.ObservationLineage
import NmDaemon.NetworkReplica
import NmDaemon.ConnectRequests
import NmDaemon.CredentialWriter
import NmDaemon.SecretReplies
import NmDaemon.SecretStorage
import NmDaemon.SecretHandoffHistory
import NmDaemon.CredentialPreservation
import NmDaemon.OwnerIsolation
import NmDaemon.ScanHistory
import NmDaemon.ConnectOutcomes
import NmDaemon.ConnectionRollback
import NmDaemon.ForgetHistory
import NmDaemon.RadioRestrictions
import NmDaemon.HotspotOwnership
import NmDaemon.ActivationVerdicts
import NmDaemon.SecretWrites
import NmDaemon.ProfileVersion
import NmDaemon.IpSettings
import NmDaemon.AdvancedUpdates
import NmDaemon.BandSettings
import NmDaemon.Base.Part
import NmDaemon.WifiSecurity
import NmDaemon.BandOperations
import NmDaemon.ProfileEdits
import NmDaemon.BandRollback
import NmDaemon.BandOutcomes
import NmDaemon.WifiSettings
import NmDaemon.PasswordPlacement
import NmDaemon.Base.Refine
import NmDaemon.HealthFeedback
import NmDaemon.Base.Segments
import NmDaemon.HistoryRotation
import NmDaemon.Statistics
import NmDaemon.ScanRequests
import NmDaemon.Base.Escaping
import NmDaemon.WifiQr
import NmDaemon.WifiShare
import NmDaemon.Base.Distinct
import NmDaemon.Base.Utf8
import NmDaemon.Base.Grouping
import NmDaemon.NetworkEntries
import NmDaemon.Base.Transaction
import NmDaemon.StatusCache
import NmDaemon.ConnectParams
import NmDaemon.TemporarySettings
import NmDaemon.WifiActivations
import NmDaemon.TemporaryJoin
import NmDaemon.PrivateTrust
import NmDaemon.IpStatus
import NmDaemon.NetworkKeys
import NmDaemon.WireTargets
import NmDaemon.LegacyDisposal
