import GatewayCache.Apply.Channels

/-! What guild events do to the cache, and what they displace. -/
namespace GatewayCache

namespace Hydration

/-- The hydration with every nested entity as one of the guild's. -/
def placed (h : Hydration) : Hydration :=
  let guildId := h.guild.id
  { h with
    channels := h.channels.map (Channel.inGuild guildId)
    threads := h.threads.map fun t => { t with guildId }
    roles := h.roles.map fun r => { r with guildId }
    members := h.members.map fun m => { m with guildId }
    voiceStates := h.voiceStates.map fun v => { v with guildId }
    emojis := h.emojis.map fun e => { e with guildId }
    stickers := h.stickers.map fun s => { s with guildId := some guildId }
    stageInstances := h.stageInstances.map fun s => { s with guildId }
    scheduledEvents := h.scheduledEvents.map fun e => { e with guildId }
    presences := h.presences.map fun p => { p with guildId } }

end Hydration

namespace Cache

/-- A guild is known in full: all that is in it is kept, and it is neither unready nor unavailable. -/
def hydrate (c : Cache) (e : Hydration) : Cache × Hydration :=
  let h := e.placed
  let channels := (h.channels ++ h.threads.map Channel.thread).foldl addChannel (c.addGuild h.guild)
  let c := { channels with
    roles := c.roles.addAll h.roles
    members := c.members.addAll h.members
    voiceStates := c.voiceStates.addAll h.voiceStates
    emojis := c.emojis.addAll h.emojis
    stickers := c.stickers.addAll h.stickers
    stageInstances := c.stageInstances.addAll h.stageInstances
    scheduledEvents := c.scheduledEvents.addAll h.scheduledEvents
    presences := c.presences.addAll h.presences }
  ((c.setUnready h.guild.id false).setUnavailable h.guild.id false, h)

/-- The guild as it is kept after a change: only hydration knows the member count and when the
current user joined. -/
def changedGuild (old : Option Guild) (new : Guild) : Guild :=
  match old with
  | some old => { new with
      memberCount := old.memberCount
      joinedAt := new.joinedAt <|> old.joinedAt }
  | none => new

@[simp] theorem changedGuild_id (old : Option Guild) (new : Guild) :
    (changedGuild old new).id = new.id := by
  cases old <;> rfl

def changeGuild (c : Cache) (e : Change Guild) : Cache × Change Guild :=
  let old := c.guilds.get? e.current.id
  (c.addGuild (changedGuild old e.current), { e with old })

/-- Removes what is filed under a guild. -/
def evictGuildGroups (c : Cache) (guildId : Snowflake) : Cache :=
  { c with
    roles := c.roles.eraseGroup guildId
    members := c.members.eraseGroup guildId
    voiceStates := c.voiceStates.eraseGroup guildId
    presences := c.presences.eraseGroup guildId
    emojis := c.emojis.eraseGroup guildId
    stickers := c.stickers.eraseGroup guildId
    stageInstances := c.stageInstances.eraseGroup guildId
    scheduledEvents := c.scheduledEvents.eraseGroup guildId }

end Cache

namespace Store

/-- Removes the channels of a guild, and gives what was stored under their ids. -/
def takeGuild (s : Store Channel) (guildId : Snowflake) : List Channel × Store Channel :=
  let (taken, rest) := s.takeAll ((s.ofGuild guildId).map (·.id))
  -- A channel kept under another id than its own is still there, and goes now.
  (taken, rest.eraseIf fun _ ch => ch.guildId == guildId)

end Store

namespace Cache

/-- Removes the channels of a guild, the members of its threads, and its messages. -/
def evictGuildChannels (c : Cache) (guildId : Snowflake) : Cache :=
  let (taken, channels) := c.channels.takeGuild guildId
  let threadIds := (taken.filter (·.isThread)).map (·.id)
  let messages := (taken.map (·.id)).foldl GroupedStore.eraseGroup c.messages
  { c with
    channels
    threadMembers := threadIds.foldl GroupedStore.eraseGroup c.threadMembers
    messages := messages.eraseIf fun _ _ m => m.guildId == some guildId }

/--
A guild goes away with all that is in it. In an outage it is unavailable from now on; otherwise
nothing is left to wait for.
-/
def deleteGuild (c : Cache) (e : GuildRemoval) : Cache × GuildRemoval :=
  let oldGuild := c.guilds.get? e.id
  let c := { c with guilds := c.guilds.erase e.id }
  let c := (c.evictGuildGroups e.id).evictGuildChannels e.id
  let c := if e.unavailable then c.setUnavailable e.id true
    else (c.setUnready e.id false).setUnavailable e.id false
  (c, { e with oldGuild })

end Cache

end GatewayCache
