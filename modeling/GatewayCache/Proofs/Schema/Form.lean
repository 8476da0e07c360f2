import GatewayCache.Event.Basic

/-!
The forms that documents have: a name for every type that is read from JSON, so that a statement
can be about all of them at once. A form has the type of its values and the codec that reads them.
-/
namespace GatewayCache

/-- The types of the cache that are objects whose keys are the same for every value. -/
inductive Entity where
  | overwrite
  | textChannel
  | voiceChannel
  | categoryChannel
  | forumChannel
  | threadMetadata
  | threadChannel
  | emoji
  | sticker
  | guild
  | guildStub
  | user
  | selfUser
  | member
  | threadMember
  | message
  | stageInstance
  | scheduledEvent
  | presence
  | voiceState
  | role
deriving DecidableEq

/-- The entities that an event may bring anew, together with the value that the cache had. -/
inductive Tracked where
  | selfUser
  | message
  | guild
  | threadChannel
  | scheduledEvent
  | stageInstance
  | member
  | presence

/-- The objects whose keys are the same for every value: entities, and payloads of events. -/
inductive RecordType where
  | entity (e : Entity)
  | ready
  | messageRemoval
  | bulkRemoval
  | hydration
  | guildRemoval
  | pinsChange
  | threadOpening
  | threadRemoval
  | threadSync
  | ownMembership
  | arrival
  | attendance
  | roleCreation
  | roleChange
  | roleRemoval
  | memberRemoval
  | memberChunk
  | emojiReplacement
  | stickerReplacement
  | voiceChange
  | typing
  | ban
  | voiceServer
  | webhooksChange
  | invite
  | inviteRemoval
  | change (t : Tracked)

/-- The forms of documents. -/
inductive Form where
  | word8
  | word32
  | word64
  | int32
  | int64
  | bool
  | string
  | timestamp
  | permissions
  | overwriteKind
  | threadKind
  | onlineStatus
  | scheduledEventStatus
  | dispatch
  /-- The name of one kind of channels, and no other. -/
  | kind (k : ChannelKind)
  | list (item : Form)
  | overwrites
  | record (s : RecordType)
  | channel
  | channelChange
  | event

/-! ### Values -/

namespace Entity

/-- The type of an entity. -/
@[reducible] def Value : Entity → Type
  | overwrite => Overwrite
  | textChannel => TextChannel
  | voiceChannel => VoiceChannel
  | categoryChannel => CategoryChannel
  | forumChannel => ForumChannel
  | threadMetadata => ThreadMetadata
  | threadChannel => ThreadChannel
  | emoji => Emoji
  | sticker => Sticker
  | guild => Guild
  | guildStub => GuildStub
  | user => User
  | selfUser => SelfUser
  | member => Member
  | threadMember => ThreadMember
  | message => Message
  | stageInstance => StageInstance
  | scheduledEvent => ScheduledEvent
  | presence => Presence
  | voiceState => VoiceState
  | role => Role

end Entity

namespace Tracked

/-- The entity itself. -/
@[reducible] def entity : Tracked → Entity
  | selfUser => .selfUser
  | message => .message
  | guild => .guild
  | threadChannel => .threadChannel
  | scheduledEvent => .scheduledEvent
  | stageInstance => .stageInstance
  | member => .member
  | presence => .presence

/-- The key of the value that the cache had. -/
def oldKey : Tracked → String
  | selfUser => "old_user"
  | message => "old_message"
  | guild => "old_guild"
  | threadChannel => "old_thread"
  | scheduledEvent => "old_event"
  | stageInstance => "old_stage_instance"
  | member => "old_member"
  | presence => "old_presence"

end Tracked

namespace RecordType

/-- The values that a record stands for. -/
@[reducible] def Value : RecordType → Type
  | entity e => e.Value
  | ready => Ready
  | messageRemoval => MessageRemoval
  | bulkRemoval => BulkRemoval
  | hydration => Hydration
  | guildRemoval => GuildRemoval
  | pinsChange => PinsChange
  | threadOpening => ThreadOpening
  | threadRemoval => ThreadRemoval
  | threadSync => ThreadSync
  | ownMembership => OwnMembership
  | arrival => Arrival
  | attendance => Attendance
  | roleCreation => RoleCreation
  | roleChange => RoleChange
  | roleRemoval => RoleRemoval
  | memberRemoval => MemberRemoval
  | memberChunk => MemberChunk
  | emojiReplacement => EmojiReplacement
  | stickerReplacement => StickerReplacement
  | voiceChange => VoiceChange
  | typing => Typing
  | ban => Ban
  | voiceServer => VoiceServer
  | webhooksChange => WebhooksChange
  | invite => Invite
  | inviteRemoval => InviteRemoval
  | change t => Change t.entity.Value

end RecordType

namespace ChannelKind

/-- What the channels of a kind hold. -/
@[reducible] def Content : ChannelKind → Type
  | text | news => TextChannel
  | voice | stage => VoiceChannel
  | category => CategoryChannel
  | forum | media => ForumChannel
  | thread => ThreadChannel

/-- The channel of a kind with the given content. -/
def make : (k : ChannelKind) → k.Content → Channel
  | text, c => .text c
  | news, c => .news c
  | voice, c => .voice c
  | stage, c => .stage c
  | category, c => .category c
  | forum, c => .forum c
  | media, c => .media c
  | thread, c => .thread c

@[simp] theorem kind_make (k : ChannelKind) (c : k.Content) : (k.make c).kind = k := by
  cases k <;> rfl

theorem make_inj (k : ChannelKind) {c c' : k.Content} (h : k.make c = k.make c') : c = c' := by
  cases k <;> cases h <;> rfl

end ChannelKind

/-- An entity as a document. -/
@[reducible] def Form.entity (e : Entity) : Form := .record (.entity e)

/-- What a channel holds. -/
def Channel.content : (c : Channel) → c.kind.Content
  | .text c => c
  | .news c => c
  | .voice c => c
  | .stage c => c
  | .category c => c
  | .forum c => c
  | .media c => c
  | .thread c => c

@[simp] theorem Channel.make_content (c : Channel) : c.kind.make c.content = c := by
  cases c <;> rfl

/-- The values that a form stands for. -/
@[reducible] def Form.Value : Form → Type
  | .word8 => UInt8
  | .word32 => UInt32
  | .word64 => UInt64
  | .int32 => Int32
  | .int64 => Int64
  | .bool => Bool
  | .string => String
  | .timestamp => Timestamp
  | .permissions => Permissions
  | .overwriteKind => OverwriteKind
  | .threadKind => ThreadKind
  | .onlineStatus => OnlineStatus
  | .scheduledEventStatus => ScheduledEventStatus
  | .dispatch => Dispatch
  | .kind _ => Unit
  | .list item => List item.Value
  | .overwrites => Overwrites
  | .record s => s.Value
  | .channel => Channel
  | .channelChange => Change Channel
  | .event => Event

/-! ### Codecs -/

/-- How an entity's keys are read and written. -/
def Entity.layout : (e : Entity) → Layout e.Value
  | overwrite => Overwrite.layout
  | textChannel => TextChannel.layout
  | voiceChannel => VoiceChannel.layout
  | categoryChannel => CategoryChannel.layout
  | forumChannel => ForumChannel.layout
  | threadMetadata => ThreadMetadata.layout
  | threadChannel => ThreadChannel.layout
  | emoji => Emoji.layout
  | sticker => Sticker.layout
  | guild => Guild.layout
  | guildStub => GuildStub.layout
  | user => User.layout
  | selfUser => SelfUser.layout
  | member => Member.layout
  | threadMember => ThreadMember.layout
  | message => Message.layout
  | stageInstance => StageInstance.layout
  | scheduledEvent => ScheduledEvent.layout
  | presence => Presence.layout
  | voiceState => VoiceState.layout
  | role => Role.layout

/-- How a record's keys are read and written. -/
def RecordType.layout : (s : RecordType) → Layout s.Value
  | entity e => e.layout
  | ready => Ready.layout
  | messageRemoval => MessageRemoval.layout
  | bulkRemoval => BulkRemoval.layout
  | hydration => Hydration.layout
  | guildRemoval => GuildRemoval.layout
  | pinsChange => PinsChange.layout
  | threadOpening => ThreadOpening.layout
  | threadRemoval => ThreadRemoval.layout
  | threadSync => ThreadSync.layout
  | ownMembership => OwnMembership.layout
  | arrival => Arrival.layout
  | attendance => Attendance.layout
  | roleCreation => RoleCreation.layout
  | roleChange => RoleChange.layout
  | roleRemoval => RoleRemoval.layout
  | memberRemoval => MemberRemoval.layout
  | memberChunk => MemberChunk.layout
  | emojiReplacement => EmojiReplacement.layout
  | stickerReplacement => StickerReplacement.layout
  | voiceChange => VoiceChange.layout
  | typing => Typing.layout
  | ban => Ban.layout
  | voiceServer => VoiceServer.layout
  | webhooksChange => WebhooksChange.layout
  | invite => Invite.layout
  | inviteRemoval => InviteRemoval.layout
  | change t => Change.layout t.entity.layout t.oldKey t.entity.layout.codec

/-- How the keys of one kind of channels are read and written, those beside the kind's name. -/
def ChannelKind.layout : (k : ChannelKind) → Layout k.Content
  | text | news => TextChannel.layout
  | voice | stage => VoiceChannel.layout
  | category => CategoryChannel.layout
  | forum | media => ForumChannel.layout
  | thread => ThreadChannel.layout

/-- The name of one kind, which says nothing more. -/
def ChannelKind.nameCodec (k : ChannelKind) : Codec Unit where
  read r j :=
    match codec.read r j with
    | .ok found => if found = k then .ok () else .error .invalid
    | .error _ => .error .invalid
  encode := fun _ => codec.encode k

/-- How the values of a form are read and written. -/
def Form.codec : (w : Form) → Codec w.Value
  | .word8 => .word8
  | .word32 => .word32
  | .word64 => .word64
  | .int32 => .int32
  | .int64 => .int64
  | .bool => .bool
  | .string => .string
  | .timestamp => .timestamp
  | .permissions => .permissions
  | .overwriteKind => OverwriteKind.codec
  | .threadKind => ThreadKind.codec
  | .onlineStatus => OnlineStatus.codec
  | .scheduledEventStatus => ScheduledEventStatus.codec
  | .dispatch => Dispatch.codec
  | .kind k => k.nameCodec
  | .list item => item.codec.list
  | .overwrites => Overwrites.codec
  | .record s => s.layout.codec
  | .channel => Channel.codec
  | .channelChange => Event.channelChange.codec
  | .event => Event.codec

/-! ### Payloads -/

namespace Dispatch

/-- The form of the payload that goes with a dispatch. -/
def form : Dispatch → Form
  | ready => .record .ready
  | userUpdate => .record (.change .selfUser)
  | messageCreate => .entity .message
  | messageUpdate => .record (.change .message)
  | messageDelete => .record .messageRemoval
  | messageDeleteBulk => .record .bulkRemoval
  | guildCreate => .record .hydration
  | guildUpdate => .record (.change .guild)
  | guildDelete => .record .guildRemoval
  | channelCreate => .channel
  | channelUpdate => .channelChange
  | channelDelete => .channelChange
  | channelPinsUpdate => .record .pinsChange
  | threadCreate => .record .threadOpening
  | threadUpdate => .record (.change .threadChannel)
  | threadDelete => .record .threadRemoval
  | threadListSync => .record .threadSync
  | threadMemberUpdate => .record .ownMembership
  | threadMembersUpdate => .record .attendance
  | guildRoleCreate => .record .roleCreation
  | guildRoleUpdate => .record .roleChange
  | guildRoleDelete => .record .roleRemoval
  | guildScheduledEventCreate => .entity .scheduledEvent
  | guildScheduledEventUpdate => .record (.change .scheduledEvent)
  | guildScheduledEventDelete => .record (.change .scheduledEvent)
  | stageInstanceCreate => .entity .stageInstance
  | stageInstanceUpdate => .record (.change .stageInstance)
  | stageInstanceDelete => .record (.change .stageInstance)
  | guildMemberAdd => .entity .member
  | guildMemberUpdate => .record (.change .member)
  | guildMemberRemove => .record .memberRemoval
  | guildMembersChunk => .record .memberChunk
  | guildEmojisUpdate => .record .emojiReplacement
  | guildStickersUpdate => .record .stickerReplacement
  | presenceUpdate => .record (.change .presence)
  | voiceStateUpdate => .record .voiceChange
  | typingStart => .record .typing
  | guildBanAdd => .record .ban
  | guildBanRemove => .record .ban
  | voiceServerUpdate => .record .voiceServer
  | webhooksUpdate => .record .webhooksChange
  | inviteCreate => .record .invite
  | inviteDelete => .record .inviteRemoval

/-- The event of a dispatch with the given payload. -/
def make : (d : Dispatch) → d.form.Value → Event
  | ready, p => .ready p
  | userUpdate, p => .userUpdate p
  | messageCreate, p => .messageCreate p
  | messageUpdate, p => .messageUpdate p
  | messageDelete, p => .messageDelete p
  | messageDeleteBulk, p => .messageDeleteBulk p
  | guildCreate, p => .guildCreate p
  | guildUpdate, p => .guildUpdate p
  | guildDelete, p => .guildDelete p
  | channelCreate, p => .channelCreate p
  | channelUpdate, p => .channelUpdate p
  | channelDelete, p => .channelDelete p
  | channelPinsUpdate, p => .channelPinsUpdate p
  | threadCreate, p => .threadCreate p
  | threadUpdate, p => .threadUpdate p
  | threadDelete, p => .threadDelete p
  | threadListSync, p => .threadListSync p
  | threadMemberUpdate, p => .threadMemberUpdate p
  | threadMembersUpdate, p => .threadMembersUpdate p
  | guildRoleCreate, p => .guildRoleCreate p
  | guildRoleUpdate, p => .guildRoleUpdate p
  | guildRoleDelete, p => .guildRoleDelete p
  | guildScheduledEventCreate, p => .guildScheduledEventCreate p
  | guildScheduledEventUpdate, p => .guildScheduledEventUpdate p
  | guildScheduledEventDelete, p => .guildScheduledEventDelete p
  | stageInstanceCreate, p => .stageInstanceCreate p
  | stageInstanceUpdate, p => .stageInstanceUpdate p
  | stageInstanceDelete, p => .stageInstanceDelete p
  | guildMemberAdd, p => .guildMemberAdd p
  | guildMemberUpdate, p => .guildMemberUpdate p
  | guildMemberRemove, p => .guildMemberRemove p
  | guildMembersChunk, p => .guildMembersChunk p
  | guildEmojisUpdate, p => .guildEmojisUpdate p
  | guildStickersUpdate, p => .guildStickersUpdate p
  | presenceUpdate, p => .presenceUpdate p
  | voiceStateUpdate, p => .voiceStateUpdate p
  | typingStart, p => .typingStart p
  | guildBanAdd, p => .guildBanAdd p
  | guildBanRemove, p => .guildBanRemove p
  | voiceServerUpdate, p => .voiceServerUpdate p
  | webhooksUpdate, p => .webhooksUpdate p
  | inviteCreate, p => .inviteCreate p
  | inviteDelete, p => .inviteDelete p

end Dispatch

end GatewayCache
