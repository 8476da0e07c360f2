import GatewayCache.Codec.Layout
import GatewayCache.Permissions.Overwrite

/-! The kinds of guild channels and what each of them holds. -/
namespace GatewayCache

namespace OverwriteKind

def all : List OverwriteKind := [role, member]

def name : OverwriteKind → String
  | role => "role"
  | member => "member"

def codec : Codec OverwriteKind := .named all name

end OverwriteKind

def Overwrite.layout : Layout Overwrite :=
  Layout.as
    (.and (.required "id" .word64) <| .and (.required "type" OverwriteKind.codec) <|
      .and (.withDefault "allow" .permissions ∅) <| .withDefault "deny" .permissions ∅)
    (fun (id, kind, allow, deny) => { id, kind, allow, deny })
    (fun o => (o.id, o.kind, o.allow, o.deny))

def Overwrites.codec : Codec Overwrites := Overwrite.layout.codec.list.as .mk (·.entries)

/-- A text or announcement channel. -/
structure TextChannel where
  id : Snowflake
  guildId : Snowflake
  name : String
  position : Int32 := 0
  topic : Option String := none
  nsfw : Bool := false
  parentId : Option Snowflake := none
  lastMessageId : Option Snowflake := none
  lastPin : Option Timestamp := none
  /-- Seconds that a user waits between two messages. -/
  slowmode : UInt32 := 0
  overwrites : Overwrites := ∅
deriving DecidableEq, Inhabited

def TextChannel.layout : Layout TextChannel :=
  Layout.as
    (.and (.required "id" .word64) <| .and (.withDefault "guild_id" .word64 0) <|
      .and (.required "name" .string) <| .and (.withDefault "position" .int32 0) <|
      .and (.optional "topic" .string) <| .and (.withDefault "nsfw" .bool false) <|
      .and (.optional "parent_id" .word64) <| .and (.optional "last_message_id" .word64) <|
      .and (.optional "last_pin_timestamp" .timestamp) <|
      .and (.withDefault "rate_limit_per_user" .word32 0) <|
      .withDefault "permission_overwrites" Overwrites.codec ∅)
    (fun (id, guildId, name, position, topic, nsfw, parentId, lastMessageId, lastPin, slowmode,
        overwrites) =>
      { id, guildId, name, position, topic, nsfw, parentId, lastMessageId, lastPin, slowmode,
        overwrites })
    (fun c => (c.id, c.guildId, c.name, c.position, c.topic, c.nsfw, c.parentId, c.lastMessageId,
      c.lastPin, c.slowmode, c.overwrites))

/-- A voice or stage channel. -/
structure VoiceChannel where
  id : Snowflake
  guildId : Snowflake
  name : String
  position : Int32 := 0
  parentId : Option Snowflake := none
  bitrate : UInt32 := 64000
  userLimit : UInt32 := 0
  rtcRegion : Option String := none
  lastMessageId : Option Snowflake := none
  overwrites : Overwrites := ∅
deriving DecidableEq, Inhabited

def VoiceChannel.layout : Layout VoiceChannel :=
  Layout.as
    (.and (.required "id" .word64) <| .and (.withDefault "guild_id" .word64 0) <|
      .and (.required "name" .string) <| .and (.withDefault "position" .int32 0) <|
      .and (.optional "parent_id" .word64) <| .and (.withDefault "bitrate" .word32 0) <|
      .and (.withDefault "user_limit" .word32 0) <| .and (.optional "rtc_region" .string) <|
      .and (.optional "last_message_id" .word64) <|
      .withDefault "permission_overwrites" Overwrites.codec ∅)
    (fun (id, guildId, name, position, parentId, bitrate, userLimit, rtcRegion, lastMessageId,
        overwrites) =>
      { id, guildId, name, position, parentId, bitrate, userLimit, rtcRegion, lastMessageId,
        overwrites })
    (fun c => (c.id, c.guildId, c.name, c.position, c.parentId, c.bitrate, c.userLimit,
      c.rtcRegion, c.lastMessageId, c.overwrites))

/-- A heading under which other channels stand. -/
structure CategoryChannel where
  id : Snowflake
  guildId : Snowflake
  name : String
  position : Int32 := 0
  overwrites : Overwrites := ∅
deriving DecidableEq, Inhabited

def CategoryChannel.layout : Layout CategoryChannel :=
  Layout.as
    (.and (.required "id" .word64) <| .and (.withDefault "guild_id" .word64 0) <|
      .and (.required "name" .string) <| .and (.withDefault "position" .int32 0) <|
      .withDefault "permission_overwrites" Overwrites.codec ∅)
    (fun (id, guildId, name, position, overwrites) => { id, guildId, name, position, overwrites })
    (fun c => (c.id, c.guildId, c.name, c.position, c.overwrites))

/-- A forum or media channel. Its posts are threads, and the newest of them counts as its last message. -/
structure ForumChannel where
  id : Snowflake
  guildId : Snowflake
  name : String
  position : Int32 := 0
  topic : Option String := none
  nsfw : Bool := false
  parentId : Option Snowflake := none
  lastMessageId : Option Snowflake := none
  overwrites : Overwrites := ∅
deriving DecidableEq, Inhabited

def ForumChannel.layout : Layout ForumChannel :=
  Layout.as
    (.and (.required "id" .word64) <| .and (.withDefault "guild_id" .word64 0) <|
      .and (.required "name" .string) <| .and (.withDefault "position" .int32 0) <|
      .and (.optional "topic" .string) <| .and (.withDefault "nsfw" .bool false) <|
      .and (.optional "parent_id" .word64) <| .and (.optional "last_message_id" .word64) <|
      .withDefault "permission_overwrites" Overwrites.codec ∅)
    (fun (id, guildId, name, position, topic, nsfw, parentId, lastMessageId, overwrites) =>
      { id, guildId, name, position, topic, nsfw, parentId, lastMessageId, overwrites })
    (fun c => (c.id, c.guildId, c.name, c.position, c.topic, c.nsfw, c.parentId, c.lastMessageId,
      c.overwrites))

/-- Who can find a thread. -/
inductive ThreadKind where
  | news
  | publicThread
  | privateThread
deriving DecidableEq, Inhabited

namespace ThreadKind

def all : List ThreadKind := [news, publicThread, privateThread]

def name : ThreadKind → String
  | news => "news"
  | publicThread => "public"
  | privateThread => "private"

def codec : Codec ThreadKind := .named all name

end ThreadKind

/-- The state of a thread that moderators manage. -/
structure ThreadMetadata where
  archived : Bool := false
  locked : Bool := false
  autoArchiveDuration : UInt32 := 0
  archivedAt : Option Timestamp := none
deriving DecidableEq, Inhabited

def ThreadMetadata.layout : Layout ThreadMetadata :=
  Layout.as
    (.and (.withDefault "archived" .bool false) <| .and (.withDefault "locked" .bool false) <|
      .and (.withDefault "auto_archive_duration" .word32 0) <|
      .optional "archive_timestamp" .timestamp)
    (fun (archived, locked, autoArchiveDuration, archivedAt) =>
      { archived, locked, autoArchiveDuration, archivedAt })
    (fun m => (m.archived, m.locked, m.autoArchiveDuration, m.archivedAt))

/-- A thread, a channel inside another one. -/
structure ThreadChannel where
  id : Snowflake
  guildId : Snowflake
  parentId : Snowflake
  kind : ThreadKind
  name : String
  ownerId : Snowflake := 0
  lastMessageId : Option Snowflake := none
  lastPin : Option Timestamp := none
  /-- Messages in the thread now. -/
  messageCount : UInt32 := 0
  /-- Messages ever sent to the thread. -/
  totalMessageSent : UInt32 := 0
  memberCount : UInt32 := 0
  metadata : ThreadMetadata := {}
deriving DecidableEq, Inhabited

def ThreadChannel.layout : Layout ThreadChannel :=
  Layout.as
    (.and (.required "id" .word64) <| .and (.withDefault "guild_id" .word64 0) <|
      .and (.required "parent_id" .word64) <| .and (.required "thread_type" ThreadKind.codec) <|
      .and (.required "name" .string) <| .and (.withDefault "owner_id" .word64 0) <|
      .and (.optional "last_message_id" .word64) <|
      .and (.optional "last_pin_timestamp" .timestamp) <|
      .and (.withDefault "message_count" .word32 0) <|
      .and (.withDefault "total_message_sent" .word32 0) <|
      .and (.withDefault "member_count" .word32 0) <|
      .withDefault "thread_metadata" ThreadMetadata.layout.codec {})
    (fun (id, guildId, parentId, kind, name, ownerId, lastMessageId, lastPin, messageCount,
        totalMessageSent, memberCount, metadata) =>
      { id, guildId, parentId, kind, name, ownerId, lastMessageId, lastPin, messageCount,
        totalMessageSent, memberCount, metadata })
    (fun t => (t.id, t.guildId, t.parentId, t.kind, t.name, t.ownerId, t.lastMessageId, t.lastPin,
      t.messageCount, t.totalMessageSent, t.memberCount, t.metadata))

end GatewayCache
