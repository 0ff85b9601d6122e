import FlowCloud.Casbin.History
import FlowCloud.Casbin.Realtime
import FlowCloud.Entity.RealtimeMessage
import FlowCloud.Server.GroupCommand
import FlowCloud.Foundation.PriorityQueue
import FlowCloud.Client.SinkRun
import FlowCloud.Client.SinkOrder
import FlowCloud.Client.Aggregate
import FlowCloud.Client.RefreshToken
import FlowCloud.Server.StoragePlugin
import FlowCloud.Server.Opener
import FlowCloud.Server.Origin
import FlowCloud.Server.Reopen
import FlowCloud.Snapshot.Control
import FlowCloud.Workspace.Agreement
import FlowCloud.Api.Middleware
import FlowCloud.Api.Authorised
import FlowCloud.Api.Upload
import FlowCloud.Tasks.Sweep
import FlowCloud.Tasks.Sessions
import FlowCloud.Tasks.Runners
import FlowCloud.Tasks.Subscribers
import FlowCloud.Sync.Numbers
import FlowCloud.Sync.Refusals
import FlowCloud.Sync.Coverage
import FlowCloud.Sync.Readers
import FlowCloud.Account.OwnerRoles
import FlowCloud.Server.ClientChannel
import FlowCloud.Storage.Coherence
import FlowCloud.Storage.MapLaw
import FlowCloud.Entity.Serde
import FlowCloud.Stream.Model
import FlowCloud.Server.Subscribers
import FlowCloud.Server.FrameOrder
import FlowCloud.Snowflake.NextId
import FlowCloud.Snapshot.Runner
import FlowCloud.Storage.Bucket
import FlowCloud.Workspace.Failures
import FlowCloud.Client.Announcements
import FlowCloud.Client.Plugin
import FlowCloud.Client.Routes
import FlowCloud.Api.Reached
import FlowCloud.Client.Disconnect
import FlowCloud.Tasks.SessionMaps
import FlowCloud.Tasks.Attribution
import FlowCloud.Tasks.Packets
import FlowCloud.Casbin.Tables
import FlowCloud.Client.Batches
import FlowCloud.Server.Replies
import FlowCloud.Protocol.Truncation
import FlowCloud.Protocol.Iteration
import FlowCloud.Server.Flushes
import FlowCloud.Server.EditState
import FlowCloud.Snapshot.Latest
import FlowCloud.Casbin.Adapter
import FlowCloud.Storage.BatchAnswers
import FlowCloud.Snapshot.Drain
import FlowCloud.Snapshot.Limit
import FlowCloud.Api.BrokenUpload
import FlowCloud.Client.BatchLimits
import FlowCloud.Server.Heartbeat
import FlowCloud.Template.Document
import FlowCloud.Template.Hierarchy
import FlowCloud.Stream.NextAfter
import FlowCloud.Snowflake.Packing
import FlowCloud.Client.MessageOrder
import FlowCloud.Snapshot.Keys
import FlowCloud.Api.FileStorage
import FlowCloud.Workspace.Invitations
