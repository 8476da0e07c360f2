import GatewayCache.Proofs.Schema.Entities

/-!
The tables of the payloads, and all tables together. A schema is a type of objects whose keys are
the same for all of its values: a record, the channels of one kind, or the changes of those.
-/
namespace GatewayCache

def Ready.slots : List (Slot Ready) := [
  .required "user" (.entity .selfUser) (·.user), .list "guilds" (.entity .guildStub) (·.guilds),
  .withDefault "session_id" .string "" (·.sessionId)]

def MessageRemoval.slots : List (Slot MessageRemoval) := [
  .required "id" .word64 (·.id), .required "channel_id" .word64 (·.channelId),
  .optional "guild_id" .word64 (·.guildId),
  .optional "old_message" (.entity .message) (·.oldMessage)]

def BulkRemoval.slots : List (Slot BulkRemoval) := [
  .required "ids" (.list .word64) (·.ids), .required "channel_id" .word64 (·.channelId),
  .optional "guild_id" .word64 (·.guildId),
  .sparseList "old_messages" (.entity .message) (·.oldMessages)]

def Hydration.slots : List (Slot Hydration) := Slot.ofPart (·.guild) Guild.slots ++ [
  .list "channels" .channel (·.channels), .list "threads" (.entity .threadChannel) (·.threads),
  .list "roles" (.entity .role) (·.roles), .list "members" (.entity .member) (·.members),
  .list "voice_states" (.entity .voiceState) (·.voiceStates),
  .list "emojis" (.entity .emoji) (·.emojis), .list "stickers" (.entity .sticker) (·.stickers),
  .list "stage_instances" (.entity .stageInstance) (·.stageInstances),
  .list "guild_scheduled_events" (.entity .scheduledEvent) (·.scheduledEvents),
  .list "presences" (.entity .presence) (·.presences)]

def GuildRemoval.slots : List (Slot GuildRemoval) := [
  .required "id" .word64 (·.id), .withDefault "unavailable" .bool false (·.unavailable),
  .optional "old_guild" (.entity .guild) (·.oldGuild)]

def PinsChange.slots : List (Slot PinsChange) := [
  .optional "guild_id" .word64 (·.guildId), .required "channel_id" .word64 (·.channelId),
  .nullable "last_pin_timestamp" .timestamp (·.lastPin),
  .optional "old_last_pin_timestamp" .timestamp (·.oldLastPin)]

def ThreadOpening.slots : List (Slot ThreadOpening) := Slot.ofPart (·.thread) ThreadChannel.slots ++
 [
  .withDefault "newly_created" .bool false (·.newlyCreated),
  .optional "member" (.entity .threadMember) (·.member)]

def ThreadRemoval.slots : List (Slot ThreadRemoval) := [
  .required "id" .word64 (·.id), .withDefault "guild_id" .word64 0 (·.guildId),
  .optional "parent_id" .word64 (·.parentId),
  .optional "old_thread" (.entity .threadChannel) (·.oldThread)]

def ThreadSync.slots : List (Slot ThreadSync) := [
  .required "guild_id" .word64 (·.guildId), .list "channel_ids" .word64 (·.channelIds),
  .list "threads" (.entity .threadChannel) (·.threads),
  .list "members" (.entity .threadMember) (·.members)]

def OwnMembership.slots : List (Slot OwnMembership) := Slot.ofPart (·.member) ThreadMember.slots ++
 [
  .withDefault "guild_id" .word64 0 (·.guildId)]

def Arrival.slots : List (Slot Arrival) := Slot.ofPart (·.threadMember) ThreadMember.slots ++ [
  .required "member" (.entity .member) (·.member),
  .optional "presence" (.entity .presence) (·.presence)]

def Attendance.slots : List (Slot Attendance) := [
  .required "id" .word64 (·.id), .required "guild_id" .word64 (·.guildId),
  .withDefault "member_count" .word32 0 (·.memberCount),
  .list "added_members" (.record .arrival) (·.added),
  .list "removed_member_ids" .word64 (·.removedIds),
  .sparseList "removed_members" (.entity .threadMember) (·.removedMembers)]

def RoleCreation.slots : List (Slot RoleCreation) := [
  .required "guild_id" .word64 (·.guildId), .required "role" (.entity .role) (·.role)]

def RoleChange.slots : List (Slot RoleChange) := [
  .required "guild_id" .word64 (·.guildId), .required "role" (.entity .role) (·.role),
  .optional "old_role" (.entity .role) (·.oldRole)]

def RoleRemoval.slots : List (Slot RoleRemoval) := [
  .required "guild_id" .word64 (·.guildId), .required "role_id" .word64 (·.roleId),
  .optional "old_role" (.entity .role) (·.oldRole)]

def MemberRemoval.slots : List (Slot MemberRemoval) := [
  .required "guild_id" .word64 (·.guildId), .required "user" (.entity .user) (·.user),
  .optional "old_member" (.entity .member) (·.oldMember)]

def MemberChunk.slots : List (Slot MemberChunk) := [
  .required "guild_id" .word64 (·.guildId), .list "members" (.entity .member) (·.members),
  .list "presences" (.entity .presence) (·.presences),
  .withDefault "chunk_index" .word32 0 (·.chunkIndex),
  .withDefault "chunk_count" .word32 0 (·.chunkCount), .list "not_found" .word64 (·.notFound)]

def EmojiReplacement.slots : List (Slot EmojiReplacement) := [
  .required "guild_id" .word64 (·.guildId), .required "emojis" (.list (.entity .emoji)) (·.emojis),
  .sparseList "removed_emojis" (.entity .emoji) (·.removedEmojis)]

def StickerReplacement.slots : List (Slot StickerReplacement) := [
  .required "guild_id" .word64 (·.guildId),
  .required "stickers" (.list (.entity .sticker)) (·.stickers),
  .sparseList "removed_stickers" (.entity .sticker) (·.removedStickers)]

def VoiceChange.slots : List (Slot VoiceChange) := Slot.ofPart (·.voiceState) VoiceState.slots ++
 [
  .optional "member" (.entity .member) (·.member),
  .optional "old_voice_state" (.entity .voiceState) (·.oldVoiceState)]

def Typing.slots : List (Slot Typing) := [
  .required "channel_id" .word64 (·.channelId), .optional "guild_id" .word64 (·.guildId),
  .required "user_id" .word64 (·.userId), .required "timestamp" .int64 (·.timestamp)]

def Ban.slots : List (Slot Ban) := [
  .required "guild_id" .word64 (·.guildId), .required "user" (.entity .user) (·.user)]

def VoiceServer.slots : List (Slot VoiceServer) := [
  .required "token" .string (·.token), .required "guild_id" .word64 (·.guildId),
  .nullable "endpoint" .string (·.endpoint)]

def WebhooksChange.slots : List (Slot WebhooksChange) := [
  .required "guild_id" .word64 (·.guildId), .required "channel_id" .word64 (·.channelId)]

def Invite.slots : List (Slot Invite) := [
  .required "code" .string (·.code), .required "channel_id" .word64 (·.channelId),
  .optional "guild_id" .word64 (·.guildId), .optional "inviter" (.entity .user) (·.inviter),
  .withDefault "max_age" .word32 0 (·.maxAge), .withDefault "max_uses" .word32 0 (·.maxUses),
  .withDefault "temporary" .bool false (·.temporary)]

def InviteRemoval.slots : List (Slot InviteRemoval) := [
  .required "code" .string (·.code), .required "channel_id" .word64 (·.channelId),
  .optional "guild_id" .word64 (·.guildId)]

/-- The keys of an entity that comes anew, and beside them the value that the cache had. -/
def Tracked.slots (t : Tracked) : List (Slot (Change t.entity.Value)) :=
  Slot.ofPart (·.current) t.entity.slots ++ [.optional t.oldKey (.entity t.entity) (·.old)]

/-- The keys of a record. -/
def RecordType.slots : (s : RecordType) → List (Slot s.Value)
  | entity e => e.slots
  | ready => Ready.slots
  | messageRemoval => MessageRemoval.slots
  | bulkRemoval => BulkRemoval.slots
  | hydration => Hydration.slots
  | guildRemoval => GuildRemoval.slots
  | pinsChange => PinsChange.slots
  | threadOpening => ThreadOpening.slots
  | threadRemoval => ThreadRemoval.slots
  | threadSync => ThreadSync.slots
  | ownMembership => OwnMembership.slots
  | arrival => Arrival.slots
  | attendance => Attendance.slots
  | roleCreation => RoleCreation.slots
  | roleChange => RoleChange.slots
  | roleRemoval => RoleRemoval.slots
  | memberRemoval => MemberRemoval.slots
  | memberChunk => MemberChunk.slots
  | emojiReplacement => EmojiReplacement.slots
  | stickerReplacement => StickerReplacement.slots
  | voiceChange => VoiceChange.slots
  | typing => Typing.slots
  | ban => Ban.slots
  | voiceServer => VoiceServer.slots
  | webhooksChange => WebhooksChange.slots
  | invite => Invite.slots
  | inviteRemoval => InviteRemoval.slots
  | change t => t.slots

/-- Every table of a record is the one that its layout follows. -/
theorem RecordType.described (s : RecordType) : Describes s.slots (fun v => v) s.layout := by
  cases s
  case entity e => exact e.described
  case change t =>
    refine .as ?_ (fun _ => rfl) fun _ => rfl
    exact .beside (fun c : Change t.entity.Value => c.current) t.entity.described (.last _)
      (.inr (by simp [Slot.optional]))
  case hydration =>
    refine .as ?_ (fun _ => rfl) fun _ => rfl
    refine .beside _ (Entity.described .guild) ?_ (.inr (by decide))
    repeat first | exact .last _ | refine .cons ?_
  case threadOpening =>
    refine .as ?_ (fun _ => rfl) fun _ => rfl
    exact .beside _ (Entity.described .threadChannel) (.cons <| .last _)
      (.inr (by decide))
  case ownMembership =>
    refine .as ?_ (fun _ => rfl) fun _ => rfl
    exact .beside _ (Entity.described .threadMember) (.last _)
      (.inr (by decide))
  case arrival =>
    refine .as ?_ (fun _ => rfl) fun _ => rfl
    exact .beside _ (Entity.described .threadMember) (.cons <| .last _)
      (.inl (by decide))
  case voiceChange =>
    refine .as ?_ (fun _ => rfl) fun _ => rfl
    exact .beside _ (Entity.described .voiceState) (.cons <| .last _)
      (.inr (by decide))
  all_goals
    refine .as ?_ (fun _ => rfl) fun _ => rfl
    repeat first | exact .last _ | refine .cons ?_

/-! ### Schemas -/

/-- The objects whose keys are the same for every value. -/
inductive Schema where
  | record (s : RecordType)
  | channel (k : ChannelKind)
  | channelChange (k : ChannelKind)

namespace Schema

/-- The form that the objects have. -/
@[reducible] def form : Schema → Form
  | record s => .record s
  | channel _ => .channel
  | channelChange _ => .channelChange

/-- What an object of the schema tells. -/
@[reducible] def Value : Schema → Type
  | record s => s.Value
  | channel k => k.Content
  | channelChange k => k.Content × Option Channel

/-- The value that an object stands for. -/
def make : (s : Schema) → s.Value → s.form.Value
  | record _, v => v
  | channel k, c => k.make c
  | channelChange k, (c, old) => ⟨k.make c, old⟩

def layout : (s : Schema) → Layout s.form.Value
  | record s => s.layout
  | channel _ => Channel.layout
  | channelChange _ => Event.channelChange

/-- The keys of the objects. -/
def slots : (s : Schema) → List (Slot s.Value)
  | record s => s.slots
  | channel k => k.taggedSlots
  | channelChange k => Slot.ofPart (fun c => c.1) k.taggedSlots ++ [
    .optional "old_channel" .channel (·.2)]

theorem described (s : Schema) : Describes s.slots s.make s.layout := by
  cases s
  case record s => exact s.described
  case channel k => exact k.described_tagged
  case channelChange k =>
    refine .as ?_ (fun _ => rfl) fun _ => rfl
    exact .beside (fun c : k.Content × Option Channel => c.1) k.described_tagged (.last _)
      (.inr (by simp [Slot.optional]))

/-- The keys of a schema, in the order in which they are declared. -/
def keys (s : Schema) : List String := s.slots.map (·.key)

/-- No key of a schema stands for two things. -/
theorem nodup_keys (s : Schema) : s.keys.Nodup := by
  cases s
  case record s =>
    cases s
    case entity e => cases e <;> decide
    case change t => cases t <;> decide
    all_goals decide
  case channel k => cases k <;> decide
  case channelChange k => cases k <;> decide

end Schema

end GatewayCache
