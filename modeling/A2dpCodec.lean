import A2dpCodec.CodecConfig
import A2dpCodec.Dispatch
import A2dpCodec.Descriptor
import A2dpCodec.Registry
import A2dpCodec.Run
import A2dpCodec.Ownership
import A2dpCodec.Rollback
import A2dpCodec.Restart
import A2dpCodec.Ordering
import A2dpCodec.Idempotence
import A2dpCodec.LhdcExtendApi
import A2dpCodec.Offload
import A2dpCodec.OffloadOutcome
import A2dpCodec.OffloadLayout
import A2dpCodec.Capabilities
import A2dpCodec.Selection
import A2dpCodec.LhdcSpecifics
import A2dpCodec.OffloadSupport
import A2dpCodec.ConfigText
import A2dpCodec.SourceOrder
import A2dpCodec.InitFiling
import A2dpCodec.Locality
import A2dpCodec.MediaPath
import A2dpCodec.DebugDump
import A2dpCodec.PeerReports
import A2dpCodec.Snapshot
