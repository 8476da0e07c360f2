import GatewayCache.Event.Payload

/-! Gateway events: a dispatch name, and the payload that goes with it. -/
namespace GatewayCache

/-- An event of the gateway. -/
inductive Event where
  | ready (ready : Ready)
  | userUpdate (user : Change SelfUser)
  | messageCreate (message : Message)
  | messageUpdate (change : Change Message)
  | messageDelete (removal : MessageRemoval)
  | messageDeleteBulk (removal : BulkRemoval)
  | guildCreate (hydration : Hydration)
  | guildUpdate (change : Change Guild)
  | guildDelete (removal : GuildRemoval)
  | channelCreate (channel : Channel)
  | channelUpdate (change : Change Channel)
  | channelDelete (change : Change Channel)
  | channelPinsUpdate (pins : PinsChange)
  | threadCreate (opening : ThreadOpening)
  | threadUpdate (change : Change ThreadChannel)
  | threadDelete (removal : ThreadRemoval)
  | threadListSync (sync : ThreadSync)
  | threadMemberUpdate (membership : OwnMembership)
  | threadMembersUpdate (attendance : Attendance)
  | guildRoleCreate (creation : RoleCreation)
  | guildRoleUpdate (change : RoleChange)
  | guildRoleDelete (removal : RoleRemoval)
  | guildScheduledEventCreate (event : ScheduledEvent)
  | guildScheduledEventUpdate (change : Change ScheduledEvent)
  | guildScheduledEventDelete (change : Change ScheduledEvent)
  | stageInstanceCreate (stage : StageInstance)
  | stageInstanceUpdate (change : Change StageInstance)
  | stageInstanceDelete (change : Change StageInstance)
  | guildMemberAdd (member : Member)
  | guildMemberUpdate (change : Change Member)
  | guildMemberRemove (removal : MemberRemoval)
  | guildMembersChunk (chunk : MemberChunk)
  | guildEmojisUpdate (replacement : EmojiReplacement)
  | guildStickersUpdate (replacement : StickerReplacement)
  | presenceUpdate (change : Change Presence)
  | voiceStateUpdate (change : VoiceChange)
  | typingStart (typing : Typing)
  | guildBanAdd (ban : Ban)
  | guildBanRemove (ban : Ban)
  | voiceServerUpdate (server : VoiceServer)
  | webhooksUpdate (change : WebhooksChange)
  | inviteCreate (invite : Invite)
  | inviteDelete (removal : InviteRemoval)
deriving DecidableEq

/-- What an event is about, without its payload. -/
inductive Dispatch where
  | ready
  | userUpdate
  | messageCreate
  | messageUpdate
  | messageDelete
  | messageDeleteBulk
  | guildCreate
  | guildUpdate
  | guildDelete
  | channelCreate
  | channelUpdate
  | channelDelete
  | channelPinsUpdate
  | threadCreate
  | threadUpdate
  | threadDelete
  | threadListSync
  | threadMemberUpdate
  | threadMembersUpdate
  | guildRoleCreate
  | guildRoleUpdate
  | guildRoleDelete
  | guildScheduledEventCreate
  | guildScheduledEventUpdate
  | guildScheduledEventDelete
  | stageInstanceCreate
  | stageInstanceUpdate
  | stageInstanceDelete
  | guildMemberAdd
  | guildMemberUpdate
  | guildMemberRemove
  | guildMembersChunk
  | guildEmojisUpdate
  | guildStickersUpdate
  | presenceUpdate
  | voiceStateUpdate
  | typingStart
  | guildBanAdd
  | guildBanRemove
  | voiceServerUpdate
  | webhooksUpdate
  | inviteCreate
  | inviteDelete
deriving DecidableEq

namespace Dispatch

def all : List Dispatch := [
  ready, userUpdate, messageCreate, messageUpdate, messageDelete, messageDeleteBulk, guildCreate,
  guildUpdate, guildDelete, channelCreate, channelUpdate, channelDelete, channelPinsUpdate,
  threadCreate, threadUpdate, threadDelete, threadListSync, threadMemberUpdate,
  threadMembersUpdate, guildRoleCreate, guildRoleUpdate, guildRoleDelete,
  guildScheduledEventCreate, guildScheduledEventUpdate, guildScheduledEventDelete,
  stageInstanceCreate, stageInstanceUpdate, stageInstanceDelete, guildMemberAdd,
  guildMemberUpdate, guildMemberRemove, guildMembersChunk, guildEmojisUpdate,
  guildStickersUpdate, presenceUpdate, voiceStateUpdate, typingStart, guildBanAdd,
  guildBanRemove, voiceServerUpdate, webhooksUpdate, inviteCreate, inviteDelete]

/-- The name of a dispatch on the wire. -/
def name : Dispatch → String
  | ready => "READY"
  | userUpdate => "USER_UPDATE"
  | messageCreate => "MESSAGE_CREATE"
  | messageUpdate => "MESSAGE_UPDATE"
  | messageDelete => "MESSAGE_DELETE"
  | messageDeleteBulk => "MESSAGE_DELETE_BULK"
  | guildCreate => "GUILD_CREATE"
  | guildUpdate => "GUILD_UPDATE"
  | guildDelete => "GUILD_DELETE"
  | channelCreate => "CHANNEL_CREATE"
  | channelUpdate => "CHANNEL_UPDATE"
  | channelDelete => "CHANNEL_DELETE"
  | channelPinsUpdate => "CHANNEL_PINS_UPDATE"
  | threadCreate => "THREAD_CREATE"
  | threadUpdate => "THREAD_UPDATE"
  | threadDelete => "THREAD_DELETE"
  | threadListSync => "THREAD_LIST_SYNC"
  | threadMemberUpdate => "THREAD_MEMBER_UPDATE"
  | threadMembersUpdate => "THREAD_MEMBERS_UPDATE"
  | guildRoleCreate => "GUILD_ROLE_CREATE"
  | guildRoleUpdate => "GUILD_ROLE_UPDATE"
  | guildRoleDelete => "GUILD_ROLE_DELETE"
  | guildScheduledEventCreate => "GUILD_SCHEDULED_EVENT_CREATE"
  | guildScheduledEventUpdate => "GUILD_SCHEDULED_EVENT_UPDATE"
  | guildScheduledEventDelete => "GUILD_SCHEDULED_EVENT_DELETE"
  | stageInstanceCreate => "STAGE_INSTANCE_CREATE"
  | stageInstanceUpdate => "STAGE_INSTANCE_UPDATE"
  | stageInstanceDelete => "STAGE_INSTANCE_DELETE"
  | guildMemberAdd => "GUILD_MEMBER_ADD"
  | guildMemberUpdate => "GUILD_MEMBER_UPDATE"
  | guildMemberRemove => "GUILD_MEMBER_REMOVE"
  | guildMembersChunk => "GUILD_MEMBERS_CHUNK"
  | guildEmojisUpdate => "GUILD_EMOJIS_UPDATE"
  | guildStickersUpdate => "GUILD_STICKERS_UPDATE"
  | presenceUpdate => "PRESENCE_UPDATE"
  | voiceStateUpdate => "VOICE_STATE_UPDATE"
  | typingStart => "TYPING_START"
  | guildBanAdd => "GUILD_BAN_ADD"
  | guildBanRemove => "GUILD_BAN_REMOVE"
  | voiceServerUpdate => "VOICE_SERVER_UPDATE"
  | webhooksUpdate => "WEBHOOKS_UPDATE"
  | inviteCreate => "INVITE_CREATE"
  | inviteDelete => "INVITE_DELETE"

def codec : Codec Dispatch := .named all name

/-- Dispatches by their names alone. -/
def nameCodec : Codec Dispatch := .tag all name

end Dispatch

namespace Event

def dispatch : Event → Dispatch
  | ready _ => .ready
  | userUpdate _ => .userUpdate
  | messageCreate _ => .messageCreate
  | messageUpdate _ => .messageUpdate
  | messageDelete _ => .messageDelete
  | messageDeleteBulk _ => .messageDeleteBulk
  | guildCreate _ => .guildCreate
  | guildUpdate _ => .guildUpdate
  | guildDelete _ => .guildDelete
  | channelCreate _ => .channelCreate
  | channelUpdate _ => .channelUpdate
  | channelDelete _ => .channelDelete
  | channelPinsUpdate _ => .channelPinsUpdate
  | threadCreate _ => .threadCreate
  | threadUpdate _ => .threadUpdate
  | threadDelete _ => .threadDelete
  | threadListSync _ => .threadListSync
  | threadMemberUpdate _ => .threadMemberUpdate
  | threadMembersUpdate _ => .threadMembersUpdate
  | guildRoleCreate _ => .guildRoleCreate
  | guildRoleUpdate _ => .guildRoleUpdate
  | guildRoleDelete _ => .guildRoleDelete
  | guildScheduledEventCreate _ => .guildScheduledEventCreate
  | guildScheduledEventUpdate _ => .guildScheduledEventUpdate
  | guildScheduledEventDelete _ => .guildScheduledEventDelete
  | stageInstanceCreate _ => .stageInstanceCreate
  | stageInstanceUpdate _ => .stageInstanceUpdate
  | stageInstanceDelete _ => .stageInstanceDelete
  | guildMemberAdd _ => .guildMemberAdd
  | guildMemberUpdate _ => .guildMemberUpdate
  | guildMemberRemove _ => .guildMemberRemove
  | guildMembersChunk _ => .guildMembersChunk
  | guildEmojisUpdate _ => .guildEmojisUpdate
  | guildStickersUpdate _ => .guildStickersUpdate
  | presenceUpdate _ => .presenceUpdate
  | voiceStateUpdate _ => .voiceStateUpdate
  | typingStart _ => .typingStart
  | guildBanAdd _ => .guildBanAdd
  | guildBanRemove _ => .guildBanRemove
  | voiceServerUpdate _ => .voiceServerUpdate
  | webhooksUpdate _ => .webhooksUpdate
  | inviteCreate _ => .inviteCreate
  | inviteDelete _ => .inviteDelete

/-- The name of an event, as people are told of it. -/
def name : Event → String
  | ready _ => "READY"
  | userUpdate _ => "USER_UPDATE"
  | messageCreate _ => "MESSAGE_CREATE"
  | messageUpdate _ => "MESSAGE_UPDATE"
  | messageDelete _ => "MESSAGE_DELETE"
  | messageDeleteBulk _ => "MESSAGE_DELETE_BULK"
  | guildCreate _ => "GUILD_CREATE"
  | guildUpdate _ => "GUILD_UPDATE"
  | guildDelete _ => "GUILD_DELETE"
  | channelCreate _ => "CHANNEL_CREATE"
  | channelUpdate _ => "CHANNEL_UPDATE"
  | channelDelete _ => "CHANNEL_DELETE"
  | channelPinsUpdate _ => "CHANNEL_PINS_UPDATE"
  | threadCreate _ => "THREAD_CREATE"
  | threadUpdate _ => "THREAD_UPDATE"
  | threadDelete _ => "THREAD_DELETE"
  | threadListSync _ => "THREAD_LIST_SYNC"
  | threadMemberUpdate _ => "THREAD_MEMBER_UPDATE"
  | threadMembersUpdate _ => "THREAD_MEMBERS_UPDATE"
  | guildRoleCreate _ => "GUILD_ROLE_CREATE"
  | guildRoleUpdate _ => "GUILD_ROLE_UPDATE"
  | guildRoleDelete _ => "GUILD_ROLE_DELETE"
  | guildScheduledEventCreate _ => "GUILD_SCHEDULED_EVENT_CREATE"
  | guildScheduledEventUpdate _ => "GUILD_SCHEDULED_EVENT_UPDATE"
  | guildScheduledEventDelete _ => "GUILD_SCHEDULED_EVENT_DELETE"
  | stageInstanceCreate _ => "STAGE_INSTANCE_CREATE"
  | stageInstanceUpdate _ => "STAGE_INSTANCE_UPDATE"
  | stageInstanceDelete _ => "STAGE_INSTANCE_DELETE"
  | guildMemberAdd _ => "GUILD_MEMBER_ADD"
  | guildMemberUpdate _ => "GUILD_MEMBER_UPDATE"
  | guildMemberRemove _ => "GUILD_MEMBER_REMOVE"
  | guildMembersChunk _ => "GUILD_MEMBERS_CHUNK"
  | guildEmojisUpdate _ => "GUILD_EMOJIS_UPDATE"
  | guildStickersUpdate _ => "GUILD_STICKERS_UPDATE"
  | presenceUpdate _ => "PRESENCE_UPDATE"
  | voiceStateUpdate _ => "VOICE_STATE_UPDATE"
  | typingStart _ => "TYPING_START"
  | guildBanAdd _ => "GUILD_BAN_ADD"
  | guildBanRemove _ => "GUILD_BAN_REMOVE"
  | voiceServerUpdate _ => "VOICE_SERVER_UPDATE"
  | webhooksUpdate _ => "WEBHOOKS_UPDATE"
  | inviteCreate _ => "INVITE_CREATE"
  | inviteDelete _ => "INVITE_DELETE"

/-- An event goes by the name that its dispatch has on the wire. -/
theorem name_eq (e : Event) : e.name = e.dispatch.name := by
  cases e <;> rfl

/-! ### Written form -/

/-! #### Changed entities -/

def selfUserChange : Layout (Change SelfUser) :=
  Change.layout SelfUser.layout "old_user" SelfUser.layout.codec

def messageChange : Layout (Change Message) :=
  Change.layout Message.layout "old_message" Message.layout.codec

def guildChange : Layout (Change Guild) :=
  Change.layout Guild.layout "old_guild" Guild.layout.codec

def channelChange : Layout (Change Channel) :=
  Change.layout Channel.layout "old_channel" Channel.codec

def threadChange : Layout (Change ThreadChannel) :=
  Change.layout ThreadChannel.layout "old_thread" ThreadChannel.layout.codec

def scheduledEventChange : Layout (Change ScheduledEvent) :=
  Change.layout ScheduledEvent.layout "old_event" ScheduledEvent.layout.codec

def stageInstanceChange : Layout (Change StageInstance) :=
  Change.layout StageInstance.layout "old_stage_instance" StageInstance.layout.codec

def memberChange : Layout (Change Member) :=
  Change.layout Member.layout "old_member" Member.layout.codec

def presenceChange : Layout (Change Presence) :=
  Change.layout Presence.layout "old_presence" Presence.layout.codec

/-! #### Payloads -/

/--
Reads the payload that goes with a dispatch. An entity that makes up a whole payload is spread over
it.
-/
def readPayload (r : Reading) : Dispatch → Json → Except DecodeError Event
  | .ready, j => (Ready.layout.codec.read r j).map ready
  | .userUpdate, j => (selfUserChange.codec.read r j).map userUpdate
  | .messageCreate, j => (Message.layout.alone.codec.read r j).map messageCreate
  | .messageUpdate, j => (messageChange.codec.read r j).map messageUpdate
  | .messageDelete, j => (MessageRemoval.layout.codec.read r j).map messageDelete
  | .messageDeleteBulk, j => (BulkRemoval.layout.codec.read r j).map messageDeleteBulk
  | .guildCreate, j => (Hydration.layout.codec.read r j).map guildCreate
  | .guildUpdate, j => (guildChange.codec.read r j).map guildUpdate
  | .guildDelete, j => (GuildRemoval.layout.codec.read r j).map guildDelete
  | .channelCreate, j => (Channel.layout.alone.codec.read r j).map channelCreate
  | .channelUpdate, j => (channelChange.codec.read r j).map channelUpdate
  | .channelDelete, j => (channelChange.codec.read r j).map channelDelete
  | .channelPinsUpdate, j => (PinsChange.layout.codec.read r j).map channelPinsUpdate
  | .threadCreate, j => (ThreadOpening.layout.codec.read r j).map threadCreate
  | .threadUpdate, j => (threadChange.codec.read r j).map threadUpdate
  | .threadDelete, j => (ThreadRemoval.layout.codec.read r j).map threadDelete
  | .threadListSync, j => (ThreadSync.layout.codec.read r j).map threadListSync
  | .threadMemberUpdate, j => (OwnMembership.layout.codec.read r j).map threadMemberUpdate
  | .threadMembersUpdate, j => (Attendance.layout.codec.read r j).map threadMembersUpdate
  | .guildRoleCreate, j => (RoleCreation.layout.codec.read r j).map guildRoleCreate
  | .guildRoleUpdate, j => (RoleChange.layout.codec.read r j).map guildRoleUpdate
  | .guildRoleDelete, j => (RoleRemoval.layout.codec.read r j).map guildRoleDelete
  | .guildScheduledEventCreate, j =>
    (ScheduledEvent.layout.alone.codec.read r j).map guildScheduledEventCreate
  | .guildScheduledEventUpdate, j =>
    (scheduledEventChange.codec.read r j).map guildScheduledEventUpdate
  | .guildScheduledEventDelete, j =>
    (scheduledEventChange.codec.read r j).map guildScheduledEventDelete
  | .stageInstanceCreate, j => (StageInstance.layout.alone.codec.read r j).map stageInstanceCreate
  | .stageInstanceUpdate, j => (stageInstanceChange.codec.read r j).map stageInstanceUpdate
  | .stageInstanceDelete, j => (stageInstanceChange.codec.read r j).map stageInstanceDelete
  | .guildMemberAdd, j => (Member.layout.alone.codec.read r j).map guildMemberAdd
  | .guildMemberUpdate, j => (memberChange.codec.read r j).map guildMemberUpdate
  | .guildMemberRemove, j => (MemberRemoval.layout.codec.read r j).map guildMemberRemove
  | .guildMembersChunk, j => (MemberChunk.layout.codec.read r j).map guildMembersChunk
  | .guildEmojisUpdate, j => (EmojiReplacement.layout.codec.read r j).map guildEmojisUpdate
  | .guildStickersUpdate, j => (StickerReplacement.layout.codec.read r j).map guildStickersUpdate
  | .presenceUpdate, j => (presenceChange.codec.read r j).map presenceUpdate
  | .voiceStateUpdate, j => (VoiceChange.layout.codec.read r j).map voiceStateUpdate
  | .typingStart, j => (Typing.layout.codec.read r j).map typingStart
  | .guildBanAdd, j => (Ban.layout.codec.read r j).map guildBanAdd
  | .guildBanRemove, j => (Ban.layout.codec.read r j).map guildBanRemove
  | .voiceServerUpdate, j => (VoiceServer.layout.codec.read r j).map voiceServerUpdate
  | .webhooksUpdate, j => (WebhooksChange.layout.codec.read r j).map webhooksUpdate
  | .inviteCreate, j => (Invite.layout.codec.read r j).map inviteCreate
  | .inviteDelete, j => (InviteRemoval.layout.codec.read r j).map inviteDelete

def encodePayload : Event → Json
  | ready p => Ready.layout.codec.encode p
  | userUpdate p => selfUserChange.codec.encode p
  | messageCreate p => Message.layout.codec.encode p
  | messageUpdate p => messageChange.codec.encode p
  | messageDelete p => MessageRemoval.layout.codec.encode p
  | messageDeleteBulk p => BulkRemoval.layout.codec.encode p
  | guildCreate p => Hydration.layout.codec.encode p
  | guildUpdate p => guildChange.codec.encode p
  | guildDelete p => GuildRemoval.layout.codec.encode p
  | channelCreate p => Channel.layout.codec.encode p
  | channelUpdate p => channelChange.codec.encode p
  | channelDelete p => channelChange.codec.encode p
  | channelPinsUpdate p => PinsChange.layout.codec.encode p
  | threadCreate p => ThreadOpening.layout.codec.encode p
  | threadUpdate p => threadChange.codec.encode p
  | threadDelete p => ThreadRemoval.layout.codec.encode p
  | threadListSync p => ThreadSync.layout.codec.encode p
  | threadMemberUpdate p => OwnMembership.layout.codec.encode p
  | threadMembersUpdate p => Attendance.layout.codec.encode p
  | guildRoleCreate p => RoleCreation.layout.codec.encode p
  | guildRoleUpdate p => RoleChange.layout.codec.encode p
  | guildRoleDelete p => RoleRemoval.layout.codec.encode p
  | guildScheduledEventCreate p => ScheduledEvent.layout.codec.encode p
  | guildScheduledEventUpdate p => scheduledEventChange.codec.encode p
  | guildScheduledEventDelete p => scheduledEventChange.codec.encode p
  | stageInstanceCreate p => StageInstance.layout.codec.encode p
  | stageInstanceUpdate p => stageInstanceChange.codec.encode p
  | stageInstanceDelete p => stageInstanceChange.codec.encode p
  | guildMemberAdd p => Member.layout.codec.encode p
  | guildMemberUpdate p => memberChange.codec.encode p
  | guildMemberRemove p => MemberRemoval.layout.codec.encode p
  | guildMembersChunk p => MemberChunk.layout.codec.encode p
  | guildEmojisUpdate p => EmojiReplacement.layout.codec.encode p
  | guildStickersUpdate p => StickerReplacement.layout.codec.encode p
  | presenceUpdate p => presenceChange.codec.encode p
  | voiceStateUpdate p => VoiceChange.layout.codec.encode p
  | typingStart p => Typing.layout.codec.encode p
  | guildBanAdd p => Ban.layout.codec.encode p
  | guildBanRemove p => Ban.layout.codec.encode p
  | voiceServerUpdate p => VoiceServer.layout.codec.encode p
  | webhooksUpdate p => WebhooksChange.layout.codec.encode p
  | inviteCreate p => Invite.layout.codec.encode p
  | inviteDelete p => InviteRemoval.layout.codec.encode p

/-- The key for the dispatch name, and the key for the payload. -/
def envelope : Layout (Dispatch × Json) :=
  .and (.required "t" Dispatch.codec) (.required "d" .document)

/-- How a payload is read: it is held if it comes before the name that tells what it is. -/
def payloadReading (o : Json.Object) : Reading :=
  match o.find? fun m => envelope.keys.contains m.1 with
  | some ("d", _) => .held
  | _ => .direct

/-- Reads an event from an object. -/
def readObject (r : Reading) (o : Json.Object) : Except DecodeError Event := do
  let (dispatch, payload) ← envelope.read r o
  match payloadReading o with
  | .direct => readPayload r dispatch payload
  | .held => if payload.isReadable then readPayload .held dispatch payload else .error .malformed

/-- Reads an event from an array, where the dispatch is a name and never an object with a name. -/
def readArray (r : Reading) : List Json → Except DecodeError Event
  | [] => .error .invalid
  | name :: items => do
    let dispatch ← Dispatch.nameCodec.read r name
    match items with
    | [] => .error .invalid
    | payload :: behind =>
      let e ← readPayload r dispatch payload
      if behind.isEmpty then .ok e else .error .invalid

/-- An event is an object of dispatch name and payload, or an array of both. -/
def codec : Codec Event where
  read
    | r, .object o => readObject r o
    | r, .array items => readArray r items
    | _, _ => .error .invalid
  encode e := .object (envelope.write (e.dispatch, e.encodePayload))

end Event

end GatewayCache
