import GatewayCache.Apply.Messages

/-! What the events of roles, members, expressions and occasions do, and what they displace. -/
namespace GatewayCache.Cache

/-! ### Roles -/

/-- A role is created in the event's guild. -/
def createRole (c : Cache) (e : RoleCreation) : Cache × RoleCreation :=
  let role := { e.role with guildId := e.guildId }
  ({ c with roles := c.roles.add role }, { e with role })

def changeRole (c : Cache) (e : RoleChange) : Cache × RoleChange :=
  let role := { e.role with guildId := e.guildId }
  ({ c with roles := c.roles.add role },
    { e with role, oldRole := c.roles.get? e.guildId role.id })

/-- Takes a role from every member of a guild that has it. -/
def stripRole (c : Cache) (guildId roleId : Snowflake) : Cache :=
  let holders := ((c.members.groupValues guildId).filter (·.roles.contains roleId)).map (·.userId)
  { c with
    members := holders.foldl (fun s id => s.modify guildId id (·.withoutRole roleId)) c.members }

/-- A role is deleted, and no member has it any more. -/
def deleteRole (c : Cache) (e : RoleRemoval) : Cache × RoleRemoval :=
  ({ c with roles := c.roles.erase e.guildId e.roleId }.stripRole e.guildId e.roleId,
    { e with oldRole := c.roles.get? e.guildId e.roleId })

/-! ### Members -/

def countMembers (c : Cache) (guildId : Snowflake) (f : UInt32 → UInt32) : Cache :=
  { c with guilds := c.guilds.modify guildId fun g => { g with memberCount := f g.memberCount } }

def addMember (c : Cache) (m : Member) : Cache × Member :=
  ({ c with members := c.members.add m }.countMembers m.guildId countUp, m)

def changeMember (c : Cache) (e : Change Member) : Cache × Change Member :=
  ({ c with members := c.members.add e.current },
    { e with old := c.members.get? e.current.guildId e.current.userId })

def removeMember (c : Cache) (e : MemberRemoval) : Cache × MemberRemoval :=
  ({ c with members := c.members.erase e.guildId e.user.id }.countMembers e.guildId (countDown 1),
    { e with oldMember := c.members.get? e.guildId e.user.id })

/-- Members and presences of the event's guild become known. -/
def addChunk (c : Cache) (e : MemberChunk) : Cache × MemberChunk :=
  let guildId := e.guildId
  let members := e.members.map fun m => { m with guildId }
  let presences := e.presences.map fun p => { p with guildId }
  ({ c with
      members := c.members.addAll members
      presences := c.presences.addAll presences }, { e with members, presences })

def changePresence (c : Cache) (e : Change Presence) : Cache × Change Presence :=
  ({ c with presences := c.presences.add e.current },
    { e with old := c.presences.get? e.current.guildId e.current.userId })

/-- A voice state changes; one without a channel is dropped. A member that comes with it is kept. -/
def changeVoice (c : Cache) (e : VoiceChange) : Cache × VoiceChange :=
  let v := e.voiceState
  let member := e.member.map fun m => { m with guildId := v.guildId }
  ({ c with
      voiceStates := if v.channelId.isSome then c.voiceStates.add v
        else c.voiceStates.erase v.guildId v.userId
      members := c.members.addAll member.toList },
    { e with member, oldVoiceState := c.voiceStates.get? v.guildId v.userId })

/-! ### Expressions -/

/-- The emojis of a guild are replaced by those of the event. -/
def replaceEmojis (c : Cache) (e : EmojiReplacement) : Cache × EmojiReplacement :=
  let emojis := e.emojis.map fun x => { x with guildId := e.guildId }
  -- What stays is replaced in place and does not count as removed.
  let stale := ((c.emojis.groupValues e.guildId).map (·.id)).filter
    fun id => !(emojis.any (·.id == id))
  let (removedEmojis, kept) := c.emojis.takeAll e.guildId stale
  ({ c with emojis := kept.addAll emojis }, { e with emojis, removedEmojis })

/-- The stickers of a guild are replaced by those of the event. -/
def replaceStickers (c : Cache) (e : StickerReplacement) : Cache × StickerReplacement :=
  let stickers := e.stickers.map fun x => { x with guildId := some e.guildId }
  let stale := ((c.stickers.groupValues e.guildId).map (·.id)).filter
    fun id => !(stickers.any (·.id == id))
  let (removedStickers, kept) := c.stickers.takeAll e.guildId stale
  ({ c with stickers := kept.addAll stickers }, { e with stickers, removedStickers })

/-! ### Occasions -/

def createScheduledEvent (c : Cache) (e : ScheduledEvent) : Cache × ScheduledEvent :=
  ({ c with scheduledEvents := c.scheduledEvents.add e }, e)

def changeScheduledEvent (c : Cache) (e : Change ScheduledEvent) : Cache × Change ScheduledEvent :=
  ({ c with scheduledEvents := c.scheduledEvents.add e.current },
    { e with old := c.scheduledEvents.get? e.current.guildId e.current.id })

def deleteScheduledEvent (c : Cache) (e : Change ScheduledEvent) : Cache × Change ScheduledEvent :=
  ({ c with scheduledEvents := c.scheduledEvents.erase e.current.guildId e.current.id },
    { e with old := c.scheduledEvents.get? e.current.guildId e.current.id })

def createStage (c : Cache) (e : StageInstance) : Cache × StageInstance :=
  ({ c with stageInstances := c.stageInstances.add e }, e)

def changeStage (c : Cache) (e : Change StageInstance) : Cache × Change StageInstance :=
  ({ c with stageInstances := c.stageInstances.add e.current },
    { e with old := c.stageInstances.get? e.current.guildId e.current.id })

def deleteStage (c : Cache) (e : Change StageInstance) : Cache × Change StageInstance :=
  ({ c with stageInstances := c.stageInstances.erase e.current.guildId e.current.id },
    { e with old := c.stageInstances.get? e.current.guildId e.current.id })

end GatewayCache.Cache
