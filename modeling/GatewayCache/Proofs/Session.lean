import GatewayCache.Apply.Event

/-!
Sessions. The cache changes by the events it is given and by calls on its parts, mixed in any
order; what a session of such calls leads to is what can be reached at all.
-/
namespace GatewayCache

/-- A category whose entities are filed under an owner. -/
inductive Shelf where
  | roles
  | members
  | threadMembers
  | presences
  | voiceStates
  | messages
  | emojis
  | stickers
  | stageInstances
  | scheduledEvents
deriving DecidableEq

namespace Shelf

/-- What stands on a shelf. -/
abbrev Entity : Shelf → Type
  | roles => Role
  | members => Member
  | threadMembers => ThreadMember
  | presences => Presence
  | voiceStates => VoiceState
  | messages => Message
  | emojis => Emoji
  | stickers => Sticker
  | stageInstances => StageInstance
  | scheduledEvents => ScheduledEvent

instance filed : (k : Shelf) → Filed k.Entity
  | roles => inferInstanceAs (Filed Role)
  | members => inferInstanceAs (Filed Member)
  | threadMembers => inferInstanceAs (Filed ThreadMember)
  | presences => inferInstanceAs (Filed Presence)
  | voiceStates => inferInstanceAs (Filed VoiceState)
  | messages => inferInstanceAs (Filed Message)
  | emojis => inferInstanceAs (Filed Emoji)
  | stickers => inferInstanceAs (Filed Sticker)
  | stageInstances => inferInstanceAs (Filed StageInstance)
  | scheduledEvents => inferInstanceAs (Filed ScheduledEvent)

/-- The category of a shelf. -/
def category : Shelf → Category
  | roles => .roles
  | members => .members
  | threadMembers => .threadMembers
  | presences => .presences
  | voiceStates => .voiceStates
  | messages => .messages
  | emojis => .emojis
  | stickers => .stickers
  | stageInstances => .stageInstances
  | scheduledEvents => .scheduledEvents

/-- What a cache holds on a shelf. -/
def store (c : Cache) : (k : Shelf) → GroupedStore k.Entity
  | roles => c.roles
  | members => c.members
  | threadMembers => c.threadMembers
  | presences => c.presences
  | voiceStates => c.voiceStates
  | messages => c.messages
  | emojis => c.emojis
  | stickers => c.stickers
  | stageInstances => c.stageInstances
  | scheduledEvents => c.scheduledEvents

/-- The cache with other content on a shelf. -/
def withStore (c : Cache) : (k : Shelf) → GroupedStore k.Entity → Cache
  | roles, s => { c with roles := s }
  | members, s => { c with members := s }
  | threadMembers, s => { c with threadMembers := s }
  | presences, s => { c with presences := s }
  | voiceStates, s => { c with voiceStates := s }
  | messages, s => { c with messages := s }
  | emojis, s => { c with emojis := s }
  | stickers, s => { c with stickers := s }
  | stageInstances, s => { c with stageInstances := s }
  | scheduledEvents, s => { c with scheduledEvents := s }

/-- A shelf holds what was put on it, and every other shelf what it held. -/
theorem store_withStore (c : Cache) (k : Shelf) (s : GroupedStore k.Entity) (j : Shelf) :
    store (withStore c k s) j = if same : k = j then same ▸ s else store c j := by
  cases k <;> cases j <;> rfl

end Shelf

/-- Something done to the cache from outside. -/
inductive Call where
  | handle (now : Timestamp) (e : Event)
  | setSelf (user : SelfUser)
  | addGuild (g : Guild)
  | removeGuild (id : Snowflake)
  | setUnready (id : Snowflake) (on : Bool)
  | setUnavailable (id : Snowflake) (on : Bool)
  | addChannel (ch : Channel)
  | removeChannel (id : Snowflake)
  | removeChannelsOf (guildId : Snowflake)
  | add (k : Shelf) (value : k.Entity)
  | remove (k : Shelf) (owner id : Snowflake)
  | removeGroup (k : Shelf) (owner : Snowflake)
  | removeIf (k : Shelf) (drop : k.Entity → Bool)

namespace Cache

/-- What a call does. -/
def call (c : Cache) : Call → Cache
  | .handle now e => (c.apply now e).1
  | .setSelf user => { c with selfUser := some user }
  | .addGuild g => c.addGuild g
  | .removeGuild id => { c with guilds := c.guilds.erase id }
  | .setUnready id on => c.setUnready id on
  | .setUnavailable id on => c.setUnavailable id on
  | .addChannel ch => c.addChannel ch
  | .removeChannel id => { c with channels := c.channels.erase id }
  | .removeChannelsOf guildId => { c with channels := (c.channels.takeGuild guildId).2 }
  | .add k value => k.withStore c ((k.store c).add value)
  | .remove k owner id => k.withStore c ((k.store c).erase owner id)
  | .removeGroup k owner => k.withStore c ((k.store c).eraseGroup owner)
  | .removeIf k drop => k.withStore c ((k.store c).eraseIf fun _ _ value => drop value)

/-- What calls do, one after the other. -/
def session (flags : Retention) (calls : List Call) : Cache := calls.foldl call (empty flags)

end Cache

end GatewayCache
