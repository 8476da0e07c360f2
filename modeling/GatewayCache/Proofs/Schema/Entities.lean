import GatewayCache.Proofs.Schema.Table

/-!
The tables of the entities and of the kinds of channels: every key with its type and with what an
absent one means, in the order in which the keys are declared. The keys of a part that is spread
stand where the part is declared.
-/
namespace GatewayCache

def User.slots : List (Slot User) := [
  .required "id" .word64 (·.id), .required "username" .string (·.username),
  .optional "global_name" .string (·.globalName), .optional "avatar" .string (·.avatar),
  .withDefault "bot" .bool false (·.bot)]

def SelfUser.slots : List (Slot SelfUser) := Slot.ofPart (·.user) User.slots ++ [
  .withDefault "mfa_enabled" .bool false (·.mfaEnabled),
  .withDefault "verified" .bool false (·.verified), .optional "locale" .string (·.locale)]

def Overwrite.slots : List (Slot Overwrite) := [
  .required "id" .word64 (·.id), .required "type" .overwriteKind (·.kind),
  .withDefault "allow" .permissions ∅ (·.allow), .withDefault "deny" .permissions ∅ (·.deny)]

def TextChannel.slots : List (Slot TextChannel) := [
  .required "id" .word64 (·.id), .withDefault "guild_id" .word64 0 (·.guildId),
  .required "name" .string (·.name), .withDefault "position" .int32 0 (·.position),
  .optional "topic" .string (·.topic), .withDefault "nsfw" .bool false (·.nsfw),
  .optional "parent_id" .word64 (·.parentId), .optional "last_message_id" .word64 (·.lastMessageId),
  .optional "last_pin_timestamp" .timestamp (·.lastPin),
  .withDefault "rate_limit_per_user" .word32 0 (·.slowmode),
  .withDefault "permission_overwrites" .overwrites ∅ (·.overwrites)]

def VoiceChannel.slots : List (Slot VoiceChannel) := [
  .required "id" .word64 (·.id), .withDefault "guild_id" .word64 0 (·.guildId),
  .required "name" .string (·.name), .withDefault "position" .int32 0 (·.position),
  .optional "parent_id" .word64 (·.parentId), .withDefault "bitrate" .word32 0 (·.bitrate),
  .withDefault "user_limit" .word32 0 (·.userLimit), .optional "rtc_region" .string (·.rtcRegion),
  .optional "last_message_id" .word64 (·.lastMessageId),
  .withDefault "permission_overwrites" .overwrites ∅ (·.overwrites)]

def CategoryChannel.slots : List (Slot CategoryChannel) := [
  .required "id" .word64 (·.id), .withDefault "guild_id" .word64 0 (·.guildId),
  .required "name" .string (·.name), .withDefault "position" .int32 0 (·.position),
  .withDefault "permission_overwrites" .overwrites ∅ (·.overwrites)]

def ForumChannel.slots : List (Slot ForumChannel) := [
  .required "id" .word64 (·.id), .withDefault "guild_id" .word64 0 (·.guildId),
  .required "name" .string (·.name), .withDefault "position" .int32 0 (·.position),
  .optional "topic" .string (·.topic), .withDefault "nsfw" .bool false (·.nsfw),
  .optional "parent_id" .word64 (·.parentId), .optional "last_message_id" .word64 (·.lastMessageId),
  .withDefault "permission_overwrites" .overwrites ∅ (·.overwrites)]

def ThreadMetadata.slots : List (Slot ThreadMetadata) := [
  .withDefault "archived" .bool false (·.archived), .withDefault "locked" .bool false (·.locked),
  .withDefault "auto_archive_duration" .word32 0 (·.autoArchiveDuration),
  .optional "archive_timestamp" .timestamp (·.archivedAt)]

def ThreadChannel.slots : List (Slot ThreadChannel) := [
  .required "id" .word64 (·.id), .withDefault "guild_id" .word64 0 (·.guildId),
  .required "parent_id" .word64 (·.parentId), .required "thread_type" .threadKind (·.kind),
  .required "name" .string (·.name), .withDefault "owner_id" .word64 0 (·.ownerId),
  .optional "last_message_id" .word64 (·.lastMessageId),
  .optional "last_pin_timestamp" .timestamp (·.lastPin),
  .withDefault "message_count" .word32 0 (·.messageCount),
  .withDefault "total_message_sent" .word32 0 (·.totalMessageSent),
  .withDefault "member_count" .word32 0 (·.memberCount),
  .withDefault "thread_metadata" (.entity .threadMetadata) {} (·.metadata)]

def Emoji.slots : List (Slot Emoji) := [
  .required "id" .word64 (·.id), .withDefault "guild_id" .word64 0 (·.guildId),
  .required "name" .string (·.name), .list "roles" .word64 (·.roles),
  .withDefault "animated" .bool false (·.animated),
  .withDefault "available" .bool true (·.available)]

def Sticker.slots : List (Slot Sticker) := [
  .required "id" .word64 (·.id), .optional "guild_id" .word64 (·.guildId),
  .required "name" .string (·.name), .optional "description" .string (·.description),
  .withDefault "tags" .string "" (·.tags), .withDefault "available" .bool true (·.available)]

def Guild.slots : List (Slot Guild) := [
  .required "id" .word64 (·.id), .required "name" .string (·.name),
  .required "owner_id" .word64 (·.ownerId), .optional "icon" .string (·.icon),
  .optional "description" .string (·.description),
  .withDefault "member_count" .word32 0 (·.memberCount),
  .optional "joined_at" .timestamp (·.joinedAt), .withDefault "large" .bool false (·.large)]

def GuildStub.slots : List (Slot GuildStub) := [
  .required "id" .word64 (·.id), .withDefault "unavailable" .bool false (·.unavailable)]

def Member.slots : List (Slot Member) := [
  .withDefault "guild_id" .word64 0 (·.guildId), .required "user" (.entity .user) (·.user),
  .optional "nick" .string (·.nick), .list "roles" .word64 (·.roles),
  .optional "joined_at" .timestamp (·.joinedAt), .withDefault "pending" .bool false (·.pending),
  .optional "communication_disabled_until" .timestamp (·.timeoutEnd)]

def ThreadMember.slots : List (Slot ThreadMember) := [
  .withDefault "id" .word64 0 (·.threadId), .withDefault "user_id" .word64 0 (·.userId),
  .optional "join_timestamp" .timestamp (·.joinedAt), .withDefault "flags" .word32 0 (·.flags)]

def Message.slots : List (Slot Message) := [
  .required "id" .word64 (·.id), .required "channel_id" .word64 (·.channelId),
  .optional "guild_id" .word64 (·.guildId), .required "author" (.entity .user) (·.author),
  .withDefault "content" .string "" (·.content), .required "timestamp" .timestamp (·.timestamp),
  .optional "edited_timestamp" .timestamp (·.editedAt),
  .withDefault "pinned" .bool false (·.pinned), .withDefault "tts" .bool false (·.tts)]

def StageInstance.slots : List (Slot StageInstance) := [
  .required "id" .word64 (·.id), .withDefault "guild_id" .word64 0 (·.guildId),
  .required "channel_id" .word64 (·.channelId), .withDefault "topic" .string "" (·.topic),
  .withDefault "privacy_level" .word8 0 (·.privacyLevel),
  .optional "guild_scheduled_event_id" .word64 (·.scheduledEventId)]

def ScheduledEvent.slots : List (Slot ScheduledEvent) := [
  .required "id" .word64 (·.id), .withDefault "guild_id" .word64 0 (·.guildId),
  .optional "channel_id" .word64 (·.channelId), .optional "creator_id" .word64 (·.creatorId),
  .required "name" .string (·.name), .optional "description" .string (·.description),
  .required "scheduled_start_time" .timestamp (·.startTime),
  .optional "scheduled_end_time" .timestamp (·.endTime),
  .withDefault "status" .scheduledEventStatus .scheduled (·.status),
  .withDefault "user_count" .word32 0 (·.userCount)]

def Presence.slots : List (Slot Presence) := [
  .required "user_id" .word64 (·.userId), .withDefault "guild_id" .word64 0 (·.guildId),
  .withDefault "status" .onlineStatus .offline (·.status),
  .list "activities" .string (·.activities)]

def VoiceState.slots : List (Slot VoiceState) := [
  .withDefault "guild_id" .word64 0 (·.guildId), .nullable "channel_id" .word64 (·.channelId),
  .required "user_id" .word64 (·.userId), .withDefault "session_id" .string "" (·.sessionId),
  .withDefault "mute" .bool false (·.mute), .withDefault "deaf" .bool false (·.deaf),
  .withDefault "self_mute" .bool false (·.selfMute),
  .withDefault "self_deaf" .bool false (·.selfDeaf),
  .withDefault "self_stream" .bool false (·.selfStream),
  .withDefault "self_video" .bool false (·.selfVideo),
  .withDefault "suppress" .bool false (·.suppress)]

def Role.slots : List (Slot Role) := [
  .required "id" .word64 (·.id), .withDefault "guild_id" .word64 0 (·.guildId),
  .required "name" .string (·.name), .withDefault "permissions" .permissions ∅ (·.permissions),
  .withDefault "position" .int32 0 (·.position), .withDefault "color" .word32 0 (·.color),
  .withDefault "hoist" .bool false (·.hoist), .withDefault "managed" .bool false (·.managed),
  .withDefault "mentionable" .bool false (·.mentionable)]

/-- The keys of an entity. -/
def Entity.slots : (e : Entity) → List (Slot e.Value)
  | overwrite => Overwrite.slots
  | textChannel => TextChannel.slots
  | voiceChannel => VoiceChannel.slots
  | categoryChannel => CategoryChannel.slots
  | forumChannel => ForumChannel.slots
  | threadMetadata => ThreadMetadata.slots
  | threadChannel => ThreadChannel.slots
  | emoji => Emoji.slots
  | sticker => Sticker.slots
  | guild => Guild.slots
  | guildStub => GuildStub.slots
  | user => User.slots
  | selfUser => SelfUser.slots
  | member => Member.slots
  | threadMember => ThreadMember.slots
  | message => Message.slots
  | stageInstance => StageInstance.slots
  | scheduledEvent => ScheduledEvent.slots
  | presence => Presence.slots
  | voiceState => VoiceState.slots
  | role => Role.slots

theorem User.described : Describes User.slots (fun v => v) User.layout :=
  .as (.cons <| .cons <| .cons <| .cons <| .last _) (fun _ => rfl) fun _ => rfl

/-- Every table of an entity is the one that its layout follows. -/
theorem Entity.described (e : Entity) : Describes e.slots (fun v => v) e.layout := by
  cases e
  case selfUser =>
    refine .as ?_ (fun _ => rfl) fun _ => rfl
    exact .beside _ User.described (.cons <| .cons <| .last _) (.inr (by decide))
  all_goals
    refine .as ?_ (fun _ => rfl) fun _ => rfl
    repeat first | exact .last _ | refine .cons ?_

namespace ChannelKind

/-- The keys of the channels of a kind, those beside the kind's name. -/
def slots : (k : ChannelKind) → List (Slot k.Content)
  | text | news => TextChannel.slots
  | voice | stage => VoiceChannel.slots
  | category => CategoryChannel.slots
  | forum | media => ForumChannel.slots
  | thread => ThreadChannel.slots

theorem described (k : ChannelKind) : Describes k.slots (fun v => v) k.layout := by
  cases k
  case text | news => exact Entity.described .textChannel
  case voice | stage => exact Entity.described .voiceChannel
  case category => exact Entity.described .categoryChannel
  case forum | media => exact Entity.described .forumChannel
  case thread => exact Entity.described .threadChannel

/-- The keys of the channels of a kind: the kind's name, and beside it those of what they hold. -/
def taggedSlots (k : ChannelKind) : List (Slot k.Content) :=
  .kind k :: Slot.ofPart (fun v => v) k.slots

theorem described_tagged (k : ChannelKind) : Describes k.taggedSlots k.make Channel.layout :=
  .kind k.described

end ChannelKind

end GatewayCache
