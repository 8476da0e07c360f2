import GatewayCache.Codec.Layout
import GatewayCache.Snowflake

/-! Occasions of a guild: live stage sessions and scheduled events. -/
namespace GatewayCache

/-- A live session in a stage channel. -/
structure StageInstance where
  id : Snowflake
  guildId : Snowflake
  channelId : Snowflake
  topic : String
  privacyLevel : UInt8
  scheduledEventId : Option Snowflake
deriving DecidableEq, Inhabited

def StageInstance.layout : Layout StageInstance :=
  Layout.as
    (.and (.required "id" .word64) <| .and (.withDefault "guild_id" .word64 0) <|
      .and (.required "channel_id" .word64) <| .and (.withDefault "topic" .string "") <|
      .and (.withDefault "privacy_level" .word8 0) <|
      .optional "guild_scheduled_event_id" .word64)
    (fun (id, guildId, channelId, topic, privacyLevel, scheduledEventId) =>
      { id, guildId, channelId, topic, privacyLevel, scheduledEventId })
    (fun s => (s.id, s.guildId, s.channelId, s.topic, s.privacyLevel, s.scheduledEventId))

/-- How far a scheduled event has come. -/
inductive ScheduledEventStatus where
  | scheduled
  | active
  | completed
  | canceled
deriving DecidableEq, Inhabited

namespace ScheduledEventStatus

def all : List ScheduledEventStatus := [scheduled, active, completed, canceled]

def name : ScheduledEventStatus → String
  | scheduled => "scheduled"
  | active => "active"
  | completed => "completed"
  | canceled => "canceled"

def codec : Codec ScheduledEventStatus := .named all name

end ScheduledEventStatus

/-- An event that a guild has planned. -/
structure ScheduledEvent where
  id : Snowflake
  guildId : Snowflake
  channelId : Option Snowflake
  creatorId : Option Snowflake
  name : String
  description : Option String
  startTime : Timestamp
  endTime : Option Timestamp
  status : ScheduledEventStatus
  userCount : UInt32
deriving DecidableEq, Inhabited

def ScheduledEvent.layout : Layout ScheduledEvent :=
  Layout.as
    (.and (.required "id" .word64) <| .and (.withDefault "guild_id" .word64 0) <|
      .and (.optional "channel_id" .word64) <| .and (.optional "creator_id" .word64) <|
      .and (.required "name" .string) <| .and (.optional "description" .string) <|
      .and (.required "scheduled_start_time" .timestamp) <|
      .and (.optional "scheduled_end_time" .timestamp) <|
      .and (.withDefault "status" ScheduledEventStatus.codec .scheduled) <|
      .withDefault "user_count" .word32 0)
    (fun (id, guildId, channelId, creatorId, name, description, startTime, endTime, status,
        userCount) =>
      { id, guildId, channelId, creatorId, name, description, startTime, endTime, status,
        userCount })
    (fun e => (e.id, e.guildId, e.channelId, e.creatorId, e.name, e.description, e.startTime,
      e.endTime, e.status, e.userCount))

end GatewayCache
