import GatewayCache.Channel.Basic
import GatewayCache.Entity.Expression
import GatewayCache.Entity.Guild
import GatewayCache.Entity.Member
import GatewayCache.Entity.Message
import GatewayCache.Entity.Occasion
import GatewayCache.Entity.Presence
import GatewayCache.Entity.Role

/-!
What events carry. A field named `old…` or `removed…` is for the values that the event displaces
from the cache; the gateway leaves it out.
-/
namespace GatewayCache

/-- A new value of an entity, with the one that it replaces. -/
structure Change (α : Type) where
  current : α
  old : Option α := none
deriving DecidableEq, Inhabited

/-- The new value's keys, and beside them the old value under a key of its own. -/
def Change.layout {α : Type} (layout : Layout α) (oldKey : String) (old : Codec α) :
    Layout (Change α) :=
  Layout.as (.beside layout (.optional oldKey old))
    (fun (current, old) => { current, old }) (fun c => (c.current, c.old))

/-- The start of a session. -/
structure Ready where
  user : SelfUser
  guilds : List GuildStub
  sessionId : String
deriving DecidableEq

def Ready.layout : Layout Ready :=
  Layout.as
    (.and (.required "user" SelfUser.layout.codec) <|
      .and (.list "guilds" GuildStub.layout.codec) <| .withDefault "session_id" .string "")
    (fun (user, guilds, sessionId) => { user, guilds, sessionId })
    (fun r => (r.user, r.guilds, r.sessionId))

/-! ### Messages -/

structure MessageRemoval where
  id : Snowflake
  channelId : Snowflake
  guildId : Option Snowflake
  oldMessage : Option Message
deriving DecidableEq

def MessageRemoval.layout : Layout MessageRemoval :=
  Layout.as
    (.and (.required "id" .word64) <| .and (.required "channel_id" .word64) <|
      .and (.optional "guild_id" .word64) <| .optional "old_message" Message.layout.codec)
    (fun (id, channelId, guildId, oldMessage) => { id, channelId, guildId, oldMessage })
    (fun m => (m.id, m.channelId, m.guildId, m.oldMessage))

/-- Several messages of a channel are deleted at once; `oldMessages` has those that were cached. -/
structure BulkRemoval where
  ids : List Snowflake
  channelId : Snowflake
  guildId : Option Snowflake
  oldMessages : List Message
deriving DecidableEq

def BulkRemoval.layout : Layout BulkRemoval :=
  Layout.as
    (.and (.required "ids" (.list .word64)) <| .and (.required "channel_id" .word64) <|
      .and (.optional "guild_id" .word64) <| .sparseList "old_messages" Message.layout.codec)
    (fun (ids, channelId, guildId, oldMessages) => { ids, channelId, guildId, oldMessages })
    (fun m => (m.ids, m.channelId, m.guildId, m.oldMessages))

/-! ### Guilds -/

/-- A guild with all that is in it. What is nested usually leaves the guild's id out. -/
structure Hydration where
  guild : Guild
  channels : List Channel := []
  threads : List ThreadChannel := []
  roles : List Role := []
  members : List Member := []
  voiceStates : List VoiceState := []
  emojis : List Emoji := []
  stickers : List Sticker := []
  stageInstances : List StageInstance := []
  scheduledEvents : List ScheduledEvent := []
  presences : List Presence := []
deriving DecidableEq

def Hydration.layout : Layout Hydration :=
  Layout.as
    (.beside Guild.layout <| .and (.list "channels" Channel.codec) <|
      .and (.list "threads" ThreadChannel.layout.codec) <|
      .and (.list "roles" Role.layout.codec) <| .and (.list "members" Member.layout.codec) <|
      .and (.list "voice_states" VoiceState.layout.codec) <|
      .and (.list "emojis" Emoji.layout.codec) <| .and (.list "stickers" Sticker.layout.codec) <|
      .and (.list "stage_instances" StageInstance.layout.codec) <|
      .and (.list "guild_scheduled_events" ScheduledEvent.layout.codec) <|
      .list "presences" Presence.layout.codec)
    (fun (guild, channels, threads, roles, members, voiceStates, emojis, stickers, stageInstances,
        scheduledEvents, presences) =>
      { guild, channels, threads, roles, members, voiceStates, emojis, stickers, stageInstances,
        scheduledEvents, presences })
    (fun h => (h.guild, h.channels, h.threads, h.roles, h.members, h.voiceStates, h.emojis,
      h.stickers, h.stageInstances, h.scheduledEvents, h.presences))

/-- A guild goes away, for good or while it is `unavailable`. -/
structure GuildRemoval where
  id : Snowflake
  unavailable : Bool
  oldGuild : Option Guild
deriving DecidableEq

def GuildRemoval.layout : Layout GuildRemoval :=
  Layout.as
    (.and (.required "id" .word64) <| .and (.withDefault "unavailable" .bool false) <|
      .optional "old_guild" Guild.layout.codec)
    (fun (id, unavailable, oldGuild) => { id, unavailable, oldGuild })
    (fun g => (g.id, g.unavailable, g.oldGuild))

/-! ### Channels and threads -/

structure PinsChange where
  guildId : Option Snowflake
  channelId : Snowflake
  lastPin : Option Timestamp
  oldLastPin : Option Timestamp
deriving DecidableEq

def PinsChange.layout : Layout PinsChange :=
  Layout.as
    (.and (.optional "guild_id" .word64) <| .and (.required "channel_id" .word64) <|
      .and (.nullable "last_pin_timestamp" .timestamp) <|
      .optional "old_last_pin_timestamp" .timestamp)
    (fun (guildId, channelId, lastPin, oldLastPin) => { guildId, channelId, lastPin, oldLastPin })
    (fun p => (p.guildId, p.channelId, p.lastPin, p.oldLastPin))

/-- A thread is created, or the current user is added to it, with the user's membership. -/
structure ThreadOpening where
  thread : ThreadChannel
  newlyCreated : Bool
  member : Option ThreadMember
deriving DecidableEq

def ThreadOpening.layout : Layout ThreadOpening :=
  Layout.as
    (.beside ThreadChannel.layout <| .and (.withDefault "newly_created" .bool false) <|
      .optional "member" ThreadMember.layout.codec)
    (fun (thread, newlyCreated, member) => { thread, newlyCreated, member })
    (fun t => (t.thread, t.newlyCreated, t.member))

structure ThreadRemoval where
  id : Snowflake
  guildId : Snowflake
  parentId : Option Snowflake
  oldThread : Option ThreadChannel
deriving DecidableEq

def ThreadRemoval.layout : Layout ThreadRemoval :=
  Layout.as
    (.and (.required "id" .word64) <| .and (.withDefault "guild_id" .word64 0) <|
      .and (.optional "parent_id" .word64) <| .optional "old_thread" ThreadChannel.layout.codec)
    (fun (id, guildId, parentId, oldThread) => { id, guildId, parentId, oldThread })
    (fun t => (t.id, t.guildId, t.parentId, t.oldThread))

/-- The active threads that the current user gained access to. -/
structure ThreadSync where
  guildId : Snowflake
  channelIds : List Snowflake
  threads : List ThreadChannel
  members : List ThreadMember
deriving DecidableEq

def ThreadSync.layout : Layout ThreadSync :=
  Layout.as
    (.and (.required "guild_id" .word64) <| .and (.list "channel_ids" .word64) <|
      .and (.list "threads" ThreadChannel.layout.codec) <|
      .list "members" ThreadMember.layout.codec)
    (fun (guildId, channelIds, threads, members) => { guildId, channelIds, threads, members })
    (fun t => (t.guildId, t.channelIds, t.threads, t.members))

/-- The current user's own membership in a thread changes. -/
structure OwnMembership where
  member : ThreadMember
  guildId : Snowflake
deriving DecidableEq

def OwnMembership.layout : Layout OwnMembership :=
  Layout.as (.beside ThreadMember.layout <| .withDefault "guild_id" .word64 0)
    (fun (member, guildId) => { member, guildId }) (fun m => (m.member, m.guildId))

/-- Someone joins a thread. -/
structure Arrival where
  threadMember : ThreadMember
  member : Member
  presence : Option Presence
deriving DecidableEq

def Arrival.layout : Layout Arrival :=
  Layout.as
    (.beside ThreadMember.layout <| .and (.required "member" Member.layout.codec) <|
      .optional "presence" Presence.layout.codec)
    (fun (threadMember, member, presence) => { threadMember, member, presence })
    (fun a => (a.threadMember, a.member, a.presence))

/-- Members join and leave a thread. -/
structure Attendance where
  id : Snowflake
  guildId : Snowflake
  memberCount : UInt32
  added : List Arrival
  removedIds : List Snowflake
  removedMembers : List ThreadMember
deriving DecidableEq

def Attendance.layout : Layout Attendance :=
  Layout.as
    (.and (.required "id" .word64) <| .and (.required "guild_id" .word64) <|
      .and (.withDefault "member_count" .word32 0) <|
      .and (.list "added_members" Arrival.layout.codec) <|
      .and (.list "removed_member_ids" .word64) <|
      .sparseList "removed_members" ThreadMember.layout.codec)
    (fun (id, guildId, memberCount, added, removedIds, removedMembers) =>
      { id, guildId, memberCount, added, removedIds, removedMembers })
    (fun a => (a.id, a.guildId, a.memberCount, a.added, a.removedIds, a.removedMembers))

/-! ### Roles and members -/

structure RoleCreation where
  guildId : Snowflake
  role : Role
deriving DecidableEq

def RoleCreation.layout : Layout RoleCreation :=
  Layout.as (.and (.required "guild_id" .word64) <| .required "role" Role.layout.codec)
    (fun (guildId, role) => { guildId, role }) (fun r => (r.guildId, r.role))

structure RoleChange where
  guildId : Snowflake
  role : Role
  oldRole : Option Role
deriving DecidableEq

def RoleChange.layout : Layout RoleChange :=
  Layout.as
    (.and (.required "guild_id" .word64) <| .and (.required "role" Role.layout.codec) <|
      .optional "old_role" Role.layout.codec)
    (fun (guildId, role, oldRole) => { guildId, role, oldRole })
    (fun r => (r.guildId, r.role, r.oldRole))

structure RoleRemoval where
  guildId : Snowflake
  roleId : Snowflake
  oldRole : Option Role
deriving DecidableEq

def RoleRemoval.layout : Layout RoleRemoval :=
  Layout.as
    (.and (.required "guild_id" .word64) <| .and (.required "role_id" .word64) <|
      .optional "old_role" Role.layout.codec)
    (fun (guildId, roleId, oldRole) => { guildId, roleId, oldRole })
    (fun r => (r.guildId, r.roleId, r.oldRole))

/-- A user leaves a guild. -/
structure MemberRemoval where
  guildId : Snowflake
  user : User
  oldMember : Option Member
deriving DecidableEq

def MemberRemoval.layout : Layout MemberRemoval :=
  Layout.as
    (.and (.required "guild_id" .word64) <| .and (.required "user" User.layout.codec) <|
      .optional "old_member" Member.layout.codec)
    (fun (guildId, user, oldMember) => { guildId, user, oldMember })
    (fun m => (m.guildId, m.user, m.oldMember))

/-- A part of the member list that was asked for. -/
structure MemberChunk where
  guildId : Snowflake
  members : List Member
  presences : List Presence
  chunkIndex : UInt32
  chunkCount : UInt32
  notFound : List Snowflake
deriving DecidableEq

def MemberChunk.layout : Layout MemberChunk :=
  Layout.as
    (.and (.required "guild_id" .word64) <| .and (.list "members" Member.layout.codec) <|
      .and (.list "presences" Presence.layout.codec) <|
      .and (.withDefault "chunk_index" .word32 0) <|
      .and (.withDefault "chunk_count" .word32 0) <| .list "not_found" .word64)
    (fun (guildId, members, presences, chunkIndex, chunkCount, notFound) =>
      { guildId, members, presences, chunkIndex, chunkCount, notFound })
    (fun m => (m.guildId, m.members, m.presences, m.chunkIndex, m.chunkCount, m.notFound))

/-! ### Expressions and voice -/

/-- The emojis of a guild are now these. -/
structure EmojiReplacement where
  guildId : Snowflake
  emojis : List Emoji
  removedEmojis : List Emoji
deriving DecidableEq

def EmojiReplacement.layout : Layout EmojiReplacement :=
  Layout.as
    (.and (.required "guild_id" .word64) <|
      .and (.required "emojis" (.list Emoji.layout.codec)) <|
      .sparseList "removed_emojis" Emoji.layout.codec)
    (fun (guildId, emojis, removedEmojis) => { guildId, emojis, removedEmojis })
    (fun r => (r.guildId, r.emojis, r.removedEmojis))

/-- The stickers of a guild are now these. -/
structure StickerReplacement where
  guildId : Snowflake
  stickers : List Sticker
  removedStickers : List Sticker
deriving DecidableEq

def StickerReplacement.layout : Layout StickerReplacement :=
  Layout.as
    (.and (.required "guild_id" .word64) <|
      .and (.required "stickers" (.list Sticker.layout.codec)) <|
      .sparseList "removed_stickers" Sticker.layout.codec)
    (fun (guildId, stickers, removedStickers) => { guildId, stickers, removedStickers })
    (fun r => (r.guildId, r.stickers, r.removedStickers))

/-- A user connects, moves, disconnects or is muted. -/
structure VoiceChange where
  voiceState : VoiceState
  member : Option Member
  oldVoiceState : Option VoiceState
deriving DecidableEq

def VoiceChange.layout : Layout VoiceChange :=
  Layout.as
    (.beside VoiceState.layout <| .and (.optional "member" Member.layout.codec) <|
      .optional "old_voice_state" VoiceState.layout.codec)
    (fun (voiceState, member, oldVoiceState) => { voiceState, member, oldVoiceState })
    (fun v => (v.voiceState, v.member, v.oldVoiceState))

/-! ### Events that touch no cached entity -/

/-- A user starts to type; the time is in seconds of the Unix epoch. -/
structure Typing where
  channelId : Snowflake
  guildId : Option Snowflake
  userId : Snowflake
  timestamp : Int64
deriving DecidableEq

def Typing.layout : Layout Typing :=
  Layout.as
    (.and (.required "channel_id" .word64) <| .and (.optional "guild_id" .word64) <|
      .and (.required "user_id" .word64) <| .required "timestamp" .int64)
    (fun (channelId, guildId, userId, timestamp) => { channelId, guildId, userId, timestamp })
    (fun t => (t.channelId, t.guildId, t.userId, t.timestamp))

/-- A user is banned, or no longer banned. -/
structure Ban where
  guildId : Snowflake
  user : User
deriving DecidableEq

def Ban.layout : Layout Ban :=
  Layout.as (.and (.required "guild_id" .word64) <| .required "user" User.layout.codec)
    (fun (guildId, user) => { guildId, user }) (fun b => (b.guildId, b.user))

/-- The server that a guild's voice goes through. -/
structure VoiceServer where
  token : String
  guildId : Snowflake
  endpoint : Option String
deriving DecidableEq

def VoiceServer.layout : Layout VoiceServer :=
  Layout.as
    (.and (.required "token" .string) <| .and (.required "guild_id" .word64) <|
      .nullable "endpoint" .string)
    (fun (token, guildId, endpoint) => { token, guildId, endpoint })
    (fun v => (v.token, v.guildId, v.endpoint))

structure WebhooksChange where
  guildId : Snowflake
  channelId : Snowflake
deriving DecidableEq

def WebhooksChange.layout : Layout WebhooksChange :=
  Layout.as (.and (.required "guild_id" .word64) <| .required "channel_id" .word64)
    (fun (guildId, channelId) => { guildId, channelId }) (fun w => (w.guildId, w.channelId))

/-- An invitation to a channel. -/
structure Invite where
  code : String
  channelId : Snowflake
  guildId : Option Snowflake
  inviter : Option User
  maxAge : UInt32
  maxUses : UInt32
  temporary : Bool
deriving DecidableEq

def Invite.layout : Layout Invite :=
  Layout.as
    (.and (.required "code" .string) <| .and (.required "channel_id" .word64) <|
      .and (.optional "guild_id" .word64) <| .and (.optional "inviter" User.layout.codec) <|
      .and (.withDefault "max_age" .word32 0) <| .and (.withDefault "max_uses" .word32 0) <|
      .withDefault "temporary" .bool false)
    (fun (code, channelId, guildId, inviter, maxAge, maxUses, temporary) =>
      { code, channelId, guildId, inviter, maxAge, maxUses, temporary })
    (fun i => (i.code, i.channelId, i.guildId, i.inviter, i.maxAge, i.maxUses, i.temporary))

/-- An invitation is withdrawn. -/
structure InviteRemoval where
  code : String
  channelId : Snowflake
  guildId : Option Snowflake
deriving DecidableEq

def InviteRemoval.layout : Layout InviteRemoval :=
  Layout.as
    (.and (.required "code" .string) <| .and (.required "channel_id" .word64) <|
      .optional "guild_id" .word64)
    (fun (code, channelId, guildId) => { code, channelId, guildId })
    (fun i => (i.code, i.channelId, i.guildId))

end GatewayCache
