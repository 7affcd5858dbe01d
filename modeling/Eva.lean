import Eva.Core.SecureHash
import Eva.Storage.Durable.LeaseProtocol
import Eva.Storage.Durable.LeaseRecovery
import Eva.Storage.Durable.Fencing
import Eva.Storage.TaskState.Cancellation
import Eva.Storage.TaskState.Backoff
import Eva.Storage.TaskState.Linearity
import Eva.Storage.TaskState.Heartbeat
import Eva.Runtime.RecoveryIdempotence
import Eva.EventBus.Damage
import Eva.EventBus.LatestReplay
import Eva.Adapter.Session
import Eva.Storage.StateRefinement
import Eva.Storage.EffectLedger.Digests
import Eva.Storage.Provider.AdmissionCrash
import Eva.Storage.Provider.AdmissionFence
import Eva.Adapter.StreamSecrets
import Eva.Storage.Provider.ProcessHistory
import Eva.Runtime.Config.Generations
import Eva.Policy.Omission
import Eva.Policy.Permissions
import Eva.Memory.ScheduleProtocol
import Eva.Mcp.StreamQueue
import Eva.Memory.Context
import Eva.Backup.Sealing
import Eva.Lua.ToolInput
import Eva.Lua.Limits
