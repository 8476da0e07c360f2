import GatewayCache.Apply.Guilds
import GatewayCache.Apply.Members
import GatewayCache.Event.Basic

/-!
Applying events. The cache takes what an event says, and the event comes back with the values that
it displaced and with the parent ids that its nested entities left out. Nothing can fail: what is
not cached displaces nothing.
-/
namespace GatewayCache.Cache

/-- A session starts: its user is the current user, and its guilds wait for their hydration. -/
def startSession (c : Cache) (e : Ready) : Cache × Ready :=
  (e.guilds.foldl (fun c g => c.setUnready g.id true) { c with selfUser := some e.user }, e)

def changeSelf (c : Cache) (e : Change SelfUser) : Cache × Change SelfUser :=
  ({ c with selfUser := some e.current }, { e with old := c.selfUser })

/-- Applies an event at the time `now`. -/
def apply (now : Timestamp) (c : Cache) : Event → Cache × Event
  | .ready e => (c.startSession e).map id .ready
  | .userUpdate e => (c.changeSelf e).map id .userUpdate
  | .messageCreate e => (c.sendMessage e).map id .messageCreate
  | .messageUpdate e => (c.editMessage e).map id .messageUpdate
  | .messageDelete e => (c.deleteMessage e).map id .messageDelete
  | .messageDeleteBulk e => (c.deleteMessages e).map id .messageDeleteBulk
  | .guildCreate e => (c.hydrate e).map id .guildCreate
  | .guildUpdate e => (c.changeGuild e).map id .guildUpdate
  | .guildDelete e => (c.deleteGuild e).map id .guildDelete
  | .channelCreate e => (c.addChannel e, .channelCreate e)
  | .channelUpdate e => (c.changeChannel now e).map id .channelUpdate
  | .channelDelete e => (c.deleteChannel e).map id .channelDelete
  | .channelPinsUpdate e => (c.changePins e).map id .channelPinsUpdate
  | .threadCreate e => (c.openThread e).map id .threadCreate
  | .threadUpdate e => (c.changeThread e).map id .threadUpdate
  | .threadDelete e => (c.deleteThread e).map id .threadDelete
  | .threadListSync e => (c.syncThreads e).map id .threadListSync
  | .threadMemberUpdate e =>
    ({ c with threadMembers := c.threadMembers.add e.member }, .threadMemberUpdate e)
  | .threadMembersUpdate e => (c.changeAttendance e).map id .threadMembersUpdate
  | .guildRoleCreate e => (c.createRole e).map id .guildRoleCreate
  | .guildRoleUpdate e => (c.changeRole e).map id .guildRoleUpdate
  | .guildRoleDelete e => (c.deleteRole e).map id .guildRoleDelete
  | .guildScheduledEventCreate e => (c.createScheduledEvent e).map id .guildScheduledEventCreate
  | .guildScheduledEventUpdate e => (c.changeScheduledEvent e).map id .guildScheduledEventUpdate
  | .guildScheduledEventDelete e => (c.deleteScheduledEvent e).map id .guildScheduledEventDelete
  | .stageInstanceCreate e => (c.createStage e).map id .stageInstanceCreate
  | .stageInstanceUpdate e => (c.changeStage e).map id .stageInstanceUpdate
  | .stageInstanceDelete e => (c.deleteStage e).map id .stageInstanceDelete
  | .guildMemberAdd e => (c.addMember e).map id .guildMemberAdd
  | .guildMemberUpdate e => (c.changeMember e).map id .guildMemberUpdate
  | .guildMemberRemove e => (c.removeMember e).map id .guildMemberRemove
  | .guildMembersChunk e => (c.addChunk e).map id .guildMembersChunk
  | .guildEmojisUpdate e => (c.replaceEmojis e).map id .guildEmojisUpdate
  | .guildStickersUpdate e => (c.replaceStickers e).map id .guildStickersUpdate
  | .presenceUpdate e => (c.changePresence e).map id .presenceUpdate
  | .voiceStateUpdate e => (c.changeVoice e).map id .voiceStateUpdate
  | e => (c, e)

/-- Applies events in order, each at the time that goes with it. -/
def applyAll (c : Cache) (events : List (Timestamp × Event)) : Cache :=
  events.foldl (fun c e => (c.apply e.1 e.2).1) c

end GatewayCache.Cache
