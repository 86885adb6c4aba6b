import Proxxx.AuditTamper
import Proxxx.AuditConcurrent
import Proxxx.HitlProfiles
import Proxxx.HitlKeyFile
import Proxxx.AuditFirstUse
import Proxxx.McpDecode
import Proxxx.StateOrder
import Proxxx.AutoConverge
import Proxxx.HostKeyVerifier
import Proxxx.ScheduleRace
import Proxxx.McpHttpGuard
import Proxxx.TuiGate
import Proxxx.QueueRuns
import Proxxx.StateSettles
import Proxxx.StorageUpdate
import Proxxx.HaRuleUpdate
import Proxxx.IpsetUpdate
import Proxxx.PoolUpdate
import Proxxx.SshPool
import Proxxx.AuditRecord
import Proxxx.BatchExitCode
import Proxxx.PatchAudit
import Proxxx.ScrubSecrets
import Proxxx.RowsTable
import Proxxx.TokenBootstrap
import Proxxx.AlertRuns
import Proxxx.TuiReducer
import Proxxx.CloudImg
import Proxxx.TuiCoordinator
import Proxxx.StreamedLines
import Proxxx.Console
import Proxxx.FleetStorage
import Proxxx.ShellQuote
import Proxxx.MetricText
import Proxxx.AuditOrder
import Proxxx.TlsPin
