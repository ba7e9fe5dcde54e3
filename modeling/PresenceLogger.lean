import PresenceLogger.Library.Table
import PresenceLogger.Library.Calendar
import PresenceLogger.Library.Text
import PresenceLogger.Bridge.OracleClient
import PresenceLogger.Bridge.OracleJdbc
import PresenceLogger.Bridge.CircuitBreaker
import PresenceLogger.Bridge.Clock
import PresenceLogger.Bridge.Profile
import PresenceLogger.Bridge.Retry
import PresenceLogger.Bridge.Inbox
import PresenceLogger.Bridge.RecordInbox
import PresenceLogger.Bridge.Command
import PresenceLogger.Library.Run
import PresenceLogger.Bridge.RecordSender
import PresenceLogger.Bridge.Runs
import PresenceLogger.Bridge.EventAck
import PresenceLogger.Bridge.RecordAck
import PresenceLogger.Bridge.ExactlyOnce
import PresenceLogger.Bridge.AckRecovery
import PresenceLogger.Bridge.BreakerRuns
import PresenceLogger.Bridge.HalfOpen
import PresenceLogger.Detector.Buffer
import PresenceLogger.Library.Json
import PresenceLogger.Library.Threads
import PresenceLogger.Detector.Absorbing
import PresenceLogger.Child.DeliveryStore
import PresenceLogger.Child.AckSession
import PresenceLogger.Child.FinalOutcomes
import PresenceLogger.Child.PublishDiscipline
import PresenceLogger.EndToEnd.RecordProtocol
import PresenceLogger.EndToEnd.Agreement
import PresenceLogger.EndToEnd.Subscriptions
import PresenceLogger.EndToEnd.Receipts
import PresenceLogger.Bridge.Finality
import PresenceLogger.Bridge.Payload
import PresenceLogger.Library.Sql
import PresenceLogger.Child.CsvLine
import PresenceLogger.EndToEnd.MergeOnce
import PresenceLogger.Bridge.Ingest
import PresenceLogger.Child.SendLogger
import PresenceLogger.Child.SendLogLines
import PresenceLogger.Child.Outbox
import PresenceLogger.Bridge.GivenUp
import PresenceLogger.Library.UniqueKey
import PresenceLogger.EndToEnd.Sidecar
import PresenceLogger.EndToEnd.FalseNack
import PresenceLogger.Child.WebSender
import PresenceLogger.EndToEnd.Identity
import PresenceLogger.Bridge.JdbcResponse
import PresenceLogger.Bridge.JdbcRequest
import PresenceLogger.EndToEnd.Boots
import PresenceLogger.Bridge.CorrectedTime
import PresenceLogger.Fleet.Discovery
import PresenceLogger.Fleet.Hostname
import PresenceLogger.Fleet.Wizard
import PresenceLogger.Fleet.StaNoReport
import PresenceLogger.Fleet.FleetView
import PresenceLogger.Library.JsonText
import PresenceLogger.Fleet.KnownMacs
import PresenceLogger.Bridge.ActiveSsids
import PresenceLogger.Detector.Fsm
import PresenceLogger.Bridge.Liveness
import PresenceLogger.Fleet.Rollup
import PresenceLogger.Retention
import PresenceLogger.EndToEnd.RetryDelays
import PresenceLogger.Library.IsoText
import PresenceLogger.Bridge.DueRows
import PresenceLogger.Library.Sqlite
import PresenceLogger.Library.SqliteSession
import PresenceLogger.Child.DeliverySchema
import PresenceLogger.Bridge.RecordSchema
import PresenceLogger.Migrations
import PresenceLogger.Fleet.DistinctStations
import PresenceLogger.Library.JsonCodec
import PresenceLogger.Library.JsonRoundTrip
import PresenceLogger.Library.JsonPieces
import PresenceLogger.Bridge.MqttFileLog
import PresenceLogger.Bridge.Redaction
import PresenceLogger.Bridge.Override
import PresenceLogger.Library.Lines
import PresenceLogger.Fleet.ChildrenConf
import PresenceLogger.Fleet.RemoteInventory
import PresenceLogger.Fleet.JoinKeyfile
import PresenceLogger.Library.MarkedBlocks
import PresenceLogger.Child.WifiFallback
import PresenceLogger.Child.Dhcpcd
import PresenceLogger.Child.IpConfig
import PresenceLogger.Hub.SiteEnv
import PresenceLogger.Hub.ApSubnet
import PresenceLogger.Child.IpRevert
import PresenceLogger.Child.SignalChanges
import PresenceLogger.Monitor.Heartbeats
import PresenceLogger.Child.Archive
import PresenceLogger.Child.SignalRegions
import PresenceLogger.Monitor.InboxReader
import PresenceLogger.Monitor.OracleReader
import PresenceLogger.Monitor.CheckMark
import PresenceLogger.Fleet.RemoteScripts
import PresenceLogger.Library.Dialogue
import PresenceLogger.Fleet.SendTarget
import PresenceLogger.Fleet.Procedure
import PresenceLogger.Fleet.Takeover
import PresenceLogger.Fleet.TakeoverOrder
import PresenceLogger.Fleet.TakeoverInventories
import PresenceLogger.Fleet.TakeoverSecrecy
import PresenceLogger.Fleet.Registration
import PresenceLogger.Fleet.RegistrationOrder
import PresenceLogger.Fleet.WifiSwitch
import PresenceLogger.Fleet.Deploy
import PresenceLogger.Fleet.DeployChild
import PresenceLogger.Fleet.DeployOutcome
import PresenceLogger.Fleet.DeployFleet
import PresenceLogger.Bridge.FiledRuns
