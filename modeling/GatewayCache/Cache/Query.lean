import GatewayCache.Cache.Basic
import GatewayCache.Permissions.Effective

/-! Questions that the cache answers by joining its categories. -/
namespace GatewayCache

namespace Store

def ofGuild (s : Store Channel) (guildId : Snowflake) : List Channel :=
  s.values.filter fun ch => ch.guildId == guildId

def threadsIn (s : Store Channel) (parentId : Snowflake) : List ThreadChannel :=
  (s.values.filterMap Channel.thread?).filter fun t => t.parentId == parentId

end Store

namespace Cache

/-! ### Members and roles -/

/-- The cached roles in a member's role list, in the order of the list. -/
def memberRoles (c : Cache) (m : Member) : List Role := m.roles.filterMap (c.roles.get? m.guildId)

/-- The current user's membership in a guild. -/
def selfMember? (c : Cache) (guildId : Snowflake) : Option Member := do
  let me ← c.selfUser
  c.members.get? guildId me.id

/-- Whether a member owns its guild, as far as the guild is cached. -/
def isOwner (c : Cache) (m : Member) : Bool :=
  (c.guilds.get? m.guildId).any fun g => g.ownerId == m.userId

/-! ### Permissions -/

/-- The permissions of a member in its guild, whether or not it is timed out. -/
def basePermissions (c : Cache) (m : Member) (timedOut : Bool) : Permissions :=
  Permissions.inGuild (c.isOwner m) ((c.roles.get? m.guildId m.guildId).map (·.permissions))
    ((c.memberRoles m).map (·.permissions)) timedOut

/-- The permissions of a member in its guild, from ownership and cached roles. -/
def memberPermissions (c : Cache) (now : Timestamp) (m : Member) : Permissions :=
  c.basePermissions m (m.timedOutAt now)

/-- The overwrites that apply in a channel: a thread goes by its parent's, if that is cached. -/
def overwritesFor (c : Cache) (ch : Channel) : Overwrites :=
  match ch with
  | .thread t => match c.channels.get? t.parentId with
    | some parent => parent.overwrites
    | none => ch.overwrites
  | _ => ch.overwrites

/-- The permissions of a member in a channel. -/
def memberPermissionsIn (c : Cache) (now : Timestamp) (ch : Channel) (m : Member) : Permissions :=
  let timedOut := m.timedOutAt now
  Permissions.inChannel (c.basePermissions m timedOut) ch.guildId m.roles m.userId
    (c.overwritesFor ch) timedOut

/-! ### Channels -/

/-- The members whose voice state is connected to a channel and who are cached. -/
def audioMembers (c : Cache) (ch : Channel) : List Member :=
  if ch.isAudio then
    ((c.voiceStates.groupValues ch.guildId).filter (·.channelId == some ch.id)).filterMap
      fun v => c.members.get? ch.guildId v.userId
  else []

def threadsIn (c : Cache) (channelId : Snowflake) : List ThreadChannel :=
  c.channels.threadsIn channelId

/-- A cached channel that holds messages directly. -/
def messageChannel? (c : Cache) (id : Snowflake) : Option Channel :=
  (c.channels.get? id).filter (·.holdsMessages)

/-- A cached voice or stage channel. -/
def audioChannel? (c : Cache) (id : Snowflake) : Option Channel :=
  (c.channels.get? id).filter (·.isAudio)

/-- A cached thread. -/
def thread? (c : Cache) (id : Snowflake) : Option ThreadChannel :=
  (c.channels.get? id).bind Channel.thread?

/-- A cached thread of the given kind. -/
def threadOfKind? (c : Cache) (kind : ThreadKind) (id : Snowflake) : Option ThreadChannel :=
  (c.thread? id).filter (·.kind == kind)

end Cache

end GatewayCache
