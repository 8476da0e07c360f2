import GatewayCache.Apply.Channels
import GatewayCache.Apply.Event
import GatewayCache.Apply.Guilds
import GatewayCache.Apply.Members
import GatewayCache.Apply.Messages
import GatewayCache.Cache.Basic
import GatewayCache.Cache.Filed
import GatewayCache.Cache.Query
import GatewayCache.Channel.Basic
import GatewayCache.Channel.Kinds
import GatewayCache.Codec.Basic
import GatewayCache.Codec.Layout
import GatewayCache.Codec.Text
import GatewayCache.Entity.Expression
import GatewayCache.Entity.Guild
import GatewayCache.Entity.Member
import GatewayCache.Entity.Message
import GatewayCache.Entity.Occasion
import GatewayCache.Entity.Presence
import GatewayCache.Entity.Role
import GatewayCache.Entity.User
import GatewayCache.Event.Basic
import GatewayCache.Event.Payload
import GatewayCache.IdMap
import GatewayCache.IdSet
import GatewayCache.Json.Basic
import GatewayCache.Json.Reader
import GatewayCache.Json.Writer
import GatewayCache.Main
import GatewayCache.Pattern.Basic
import GatewayCache.Pattern.Reader
import GatewayCache.Permissions.Basic
import GatewayCache.Permissions.Effective
import GatewayCache.Permissions.Overwrite
import GatewayCache.Proofs.BulkEvents
import GatewayCache.Proofs.Calendar
import GatewayCache.Proofs.ChannelLookup
import GatewayCache.Proofs.ChannelPlan
import GatewayCache.Proofs.ChannelRemoval
import GatewayCache.Proofs.ChannelSight
import GatewayCache.Proofs.EffectivePermissions
import GatewayCache.Proofs.Enrichment
import GatewayCache.Proofs.EventRoundTrip
import GatewayCache.Proofs.ExpressionReplacement
import GatewayCache.Proofs.FlatStore
import GatewayCache.Proofs.Granting
import GatewayCache.Proofs.GuildCommutation
import GatewayCache.Proofs.GuildHydration
import GatewayCache.Proofs.GuildRemoval
import GatewayCache.Proofs.Invariant
import GatewayCache.Proofs.KeyOrder
import GatewayCache.Proofs.LastWrite
import GatewayCache.Proofs.LetterCase
import GatewayCache.Proofs.Lookup
import GatewayCache.Proofs.MemberCount
import GatewayCache.Proofs.MessageGuild
import GatewayCache.Proofs.NestedParents
import GatewayCache.Proofs.Orphans
import GatewayCache.Proofs.OverwritePrecedence
import GatewayCache.Proofs.OverwriteUpserts
import GatewayCache.Proofs.Parts
import GatewayCache.Proofs.Redelivery
import GatewayCache.Proofs.ReplayLines
import GatewayCache.Proofs.RequiredKeys
import GatewayCache.Proofs.RetentionIndependence
import GatewayCache.Proofs.RetentionNames
import GatewayCache.Proofs.RoleRemoval
import GatewayCache.Proofs.RoleSets
import GatewayCache.Proofs.Schema.Catalog
import GatewayCache.Proofs.Schema.Entities
import GatewayCache.Proofs.Schema.Envelope
import GatewayCache.Proofs.Schema.Form
import GatewayCache.Proofs.Schema.Payloads
import GatewayCache.Proofs.Schema.Reading
import GatewayCache.Proofs.Schema.Slot
import GatewayCache.Proofs.Schema.Table
import GatewayCache.Proofs.Session
import GatewayCache.Proofs.SettingsSources
import GatewayCache.Proofs.SnapshotWalk
import GatewayCache.Proofs.SpelledNames
import GatewayCache.Proofs.ThreadCounters
import GatewayCache.Proofs.ThreadInheritance
import GatewayCache.Proofs.TimeoutInstant
import GatewayCache.Proofs.TimeoutMask
import GatewayCache.Proofs.TimestampCase
import GatewayCache.Proofs.TimestampSpelling
import GatewayCache.Proofs.TimestampText
import GatewayCache.Proofs.TransitMarkers
import GatewayCache.Proofs.Transition
import GatewayCache.Proofs.VoiceMembership
import GatewayCache.Replay.Directive
import GatewayCache.Replay.Filter
import GatewayCache.Replay.Invocation
import GatewayCache.Replay.Lines
import GatewayCache.Replay.Log
import GatewayCache.Replay.Run
import GatewayCache.Replay.Tally
import GatewayCache.Retention
import GatewayCache.Settings
import GatewayCache.Snowflake
import GatewayCache.Store.Grouped
import GatewayCache.Store.Keyed
import GatewayCache.Text.Alphanumeric
import GatewayCache.Text.Blank
import GatewayCache.Text.Double
import GatewayCache.Text.Scan
import GatewayCache.Timestamp.Basic
import GatewayCache.Timestamp.Reader
import GatewayCache.Timestamp.Writer
import GatewayCache.Toml.Basic
import GatewayCache.Toml.Document
import GatewayCache.Toml.Reader
import GatewayCache.Toml.Scalar
