import GatewayCache.Cache.Filed
import GatewayCache.Channel.Basic
import GatewayCache.Entity.Guild
import GatewayCache.IdSet
import GatewayCache.Retention
import GatewayCache.Store.Keyed

/-!
The state of the cache. The current user and the two sets of guilds in transition are kept
whatever is retained, because the session needs them.
-/
namespace GatewayCache

/-- Everything that is cached. -/
structure Cache where
  retention : Retention
  selfUser : Option SelfUser
  /-- Guilds that are announced and not yet hydrated. -/
  unready : IdSet
  /-- Guilds that are gone because of an outage. -/
  unavailable : IdSet
  guilds : Store Guild
  channels : Store Channel
  roles : GroupedStore Role
  members : GroupedStore Member
  threadMembers : GroupedStore ThreadMember
  presences : GroupedStore Presence
  voiceStates : GroupedStore VoiceState
  messages : GroupedStore Message
  emojis : GroupedStore Emoji
  stickers : GroupedStore Sticker
  stageInstances : GroupedStore StageInstance
  scheduledEvents : GroupedStore ScheduledEvent

namespace Cache

def empty (retention : Retention) : Cache where
  retention
  selfUser := none
  unready := ∅
  unavailable := ∅
  guilds := .empty (retention.keeps .guilds)
  channels := .empty (retention.keeps .channels)
  roles := .empty (retention.keeps .roles)
  members := .empty (retention.keeps .members)
  threadMembers := .empty (retention.keeps .threadMembers)
  presences := .empty (retention.keeps .presences)
  voiceStates := .empty (retention.keeps .voiceStates)
  messages := .empty (retention.keeps .messages)
  emojis := .empty (retention.keeps .emojis)
  stickers := .empty (retention.keeps .stickers)
  stageInstances := .empty (retention.keeps .stageInstances)
  scheduledEvents := .empty (retention.keeps .scheduledEvents)

instance : Inhabited Cache := ⟨empty .standard⟩

def addGuild (c : Cache) (g : Guild) : Cache := { c with guilds := c.guilds.put g.id g }

def addChannel (c : Cache) (ch : Channel) : Cache := { c with channels := c.channels.put ch.id ch }

/-- Sets whether a guild waits for its hydration. -/
def setUnready (c : Cache) (guildId : Snowflake) (on : Bool) : Cache :=
  { c with unready := c.unready.set guildId on }

/-- Sets whether a guild is gone because of an outage. -/
def setUnavailable (c : Cache) (guildId : Snowflake) (on : Bool) : Cache :=
  { c with unavailable := c.unavailable.set guildId on }

end Cache

end GatewayCache
