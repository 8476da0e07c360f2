import GatewayCache.Apply.Event
import GatewayCache.Proofs.Lookup

/-!
What an event does to every part of the state. All but three categories change by the event and
their own content alone; channels, thread members and messages also depend on the rest of the cache.
The main statement is `fst_apply`, the state after an event field by field.
-/
namespace GatewayCache

namespace GroupedStore

/-- Takes a role from the members of a guild that have it. -/
def stripRole (s : GroupedStore Member) (guildId roleId : Snowflake) : GroupedStore Member :=
  (((s.groupValues guildId).filter (·.roles.contains roleId)).map (·.userId)).foldl
    (fun s id => s.modify guildId id (·.withoutRole roleId)) s

/-- Makes the given values, all of one owner, the only ones of that owner. -/
def replaceGroup {V : Type} [Filed V] (s : GroupedStore V) (owner : Snowflake)
    (values : List V) : GroupedStore V :=
  let stale := ((s.groupValues owner).map Filed.key).filter
    fun id => !(values.any (Filed.key · == id))
  (s.takeAll owner stale).2.addAll values

end GroupedStore

/-! ### Parts that change by themselves -/

namespace Event

def onSelf : Event → Option SelfUser → Option SelfUser
  | .ready e, _ => some e.user
  | .userUpdate e, _ => some e.current
  | _, me => me

def onUnready : Event → IdSet → IdSet
  | .ready e, s => e.guilds.foldl (fun s g => s.set g.id true) s
  | .guildCreate h, s => s.set h.guild.id false
  | .guildDelete e, s => if e.unavailable then s else s.set e.id false
  | _, s => s

def onUnavailable : Event → IdSet → IdSet
  | .guildCreate h, s => s.set h.guild.id false
  | .guildDelete e, s => s.set e.id e.unavailable
  | _, s => s

def onGuilds : Event → Store Guild → Store Guild
  | .guildCreate h, s => s.put h.guild.id h.guild
  | .guildUpdate e, s =>
    let guild := Cache.changedGuild (s.get? e.current.id) e.current
    s.put guild.id guild
  | .guildDelete e, s => s.erase e.id
  | .guildMemberAdd m, s =>
    s.modify m.guildId fun g => { g with memberCount := countUp g.memberCount }
  | .guildMemberRemove e, s =>
    s.modify e.guildId fun g => { g with memberCount := countDown 1 g.memberCount }
  | _, s => s

def onRoles : Event → GroupedStore Role → GroupedStore Role
  | .guildCreate h, s => s.addAll h.placed.roles
  | .guildDelete e, s => s.eraseGroup e.id
  | .guildRoleCreate e, s => s.add { e.role with guildId := e.guildId }
  | .guildRoleUpdate e, s => s.add { e.role with guildId := e.guildId }
  | .guildRoleDelete e, s => s.erase e.guildId e.roleId
  | _, s => s

def onMembers : Event → GroupedStore Member → GroupedStore Member
  | .guildCreate h, s => s.addAll h.placed.members
  | .guildDelete e, s => s.eraseGroup e.id
  | .threadMembersUpdate e, s =>
    s.addAll ((e.added.map (Cache.placeArrival e.id e.guildId)).map (·.member))
  | .guildRoleDelete e, s => s.stripRole e.guildId e.roleId
  | .guildMemberAdd m, s => s.add m
  | .guildMemberUpdate e, s => s.add e.current
  | .guildMemberRemove e, s => s.erase e.guildId e.user.id
  | .guildMembersChunk e, s => s.addAll (e.members.map fun m => { m with guildId := e.guildId })
  | .voiceStateUpdate e, s =>
    s.addAll (e.member.map fun m => { m with guildId := e.voiceState.guildId }).toList
  | _, s => s

def onPresences : Event → GroupedStore Presence → GroupedStore Presence
  | .guildCreate h, s => s.addAll h.placed.presences
  | .guildDelete e, s => s.eraseGroup e.id
  | .threadMembersUpdate e, s =>
    s.addAll ((e.added.map (Cache.placeArrival e.id e.guildId)).filterMap (·.presence))
  | .guildMembersChunk e, s =>
    s.addAll (e.presences.map fun p => { p with guildId := e.guildId })
  | .presenceUpdate e, s => s.add e.current
  | _, s => s

def onVoiceStates : Event → GroupedStore VoiceState → GroupedStore VoiceState
  | .guildCreate h, s => s.addAll h.placed.voiceStates
  | .guildDelete e, s => s.eraseGroup e.id
  | .voiceStateUpdate e, s =>
    if e.voiceState.channelId.isSome then s.add e.voiceState
    else s.erase e.voiceState.guildId e.voiceState.userId
  | _, s => s

def onEmojis : Event → GroupedStore Emoji → GroupedStore Emoji
  | .guildCreate h, s => s.addAll h.placed.emojis
  | .guildDelete e, s => s.eraseGroup e.id
  | .guildEmojisUpdate e, s =>
    s.replaceGroup e.guildId (e.emojis.map fun x => { x with guildId := e.guildId })
  | _, s => s

def onStickers : Event → GroupedStore Sticker → GroupedStore Sticker
  | .guildCreate h, s => s.addAll h.placed.stickers
  | .guildDelete e, s => s.eraseGroup e.id
  | .guildStickersUpdate e, s =>
    s.replaceGroup e.guildId (e.stickers.map fun x => { x with guildId := some e.guildId })
  | _, s => s

def onStageInstances : Event → GroupedStore StageInstance → GroupedStore StageInstance
  | .guildCreate h, s => s.addAll h.placed.stageInstances
  | .guildDelete e, s => s.eraseGroup e.id
  | .stageInstanceCreate e, s => s.add e
  | .stageInstanceUpdate e, s => s.add e.current
  | .stageInstanceDelete e, s => s.erase e.current.guildId e.current.id
  | _, s => s

def onScheduledEvents : Event → GroupedStore ScheduledEvent → GroupedStore ScheduledEvent
  | .guildCreate h, s => s.addAll h.placed.scheduledEvents
  | .guildDelete e, s => s.eraseGroup e.id
  | .guildScheduledEventCreate e, s => s.add e
  | .guildScheduledEventUpdate e, s => s.add e.current
  | .guildScheduledEventDelete e, s => s.erase e.current.guildId e.current.id
  | _, s => s

end Event

/-! ### Parts that depend on other parts -/

namespace Cache

/-- The ids of the channels that a guild's deletion takes out one by one. -/
def guildChannelIds (c : Cache) (guildId : Snowflake) : List Snowflake :=
  (c.channels.takeGuild guildId).1.map (·.id)

/-- The ids of those of them that are threads. -/
def guildThreadIds (c : Cache) (guildId : Snowflake) : List Snowflake :=
  ((c.channels.takeGuild guildId).1.filter (·.isThread)).map (·.id)

/-- The channels that a channel or thread event evicts together with all that is in them. -/
def evictedBy (now : Timestamp) (c : Cache) : Event → List Snowflake
  | .channelUpdate e => ((c.addChannel e.current).hiddenThreads now e.current).map (·.id)
  | .channelDelete e =>
    e.current.id :: ((c.evictChannel e.current.id).threadsIn e.current.id).map (·.id)
  | .threadDelete e => [e.id]
  | _ => []

def channelsAfter (now : Timestamp) (c : Cache) (e : Event) : Store Channel :=
  match e with
  | .messageCreate m => c.channels.modify m.channelId (.messageSent m.id)
  | .messageDelete r => c.channels.modify r.channelId (.mapThread (.messagesDeleted 1))
  | .messageDeleteBulk r =>
    c.channels.modify r.channelId (.mapThread (.messagesDeleted r.ids.length))
  | .guildCreate h =>
    c.channels.putAll Channel.id (h.placed.channels ++ h.placed.threads.map .thread)
  | .guildDelete r => (c.channels.takeGuild r.id).2
  | .channelCreate ch => c.channels.put ch.id ch
  | .channelUpdate u =>
    (c.channels.put u.current.id u.current).eraseIf fun id _ => (c.evictedBy now e).contains id
  | .channelDelete _ | .threadDelete _ =>
    c.channels.eraseIf fun id _ => (c.evictedBy now e).contains id
  | .channelPinsUpdate p => c.channels.modify p.channelId (.withLastPin p.lastPin)
  | .threadCreate o => c.channels.put o.thread.id (.thread o.thread)
  | .threadUpdate u => c.channels.put u.current.id (.thread u.current)
  | .threadListSync s =>
    c.channels.putAll Channel.id (s.threads.map fun t => .thread { t with guildId := s.guildId })
  | .threadMembersUpdate a =>
    c.channels.modify a.id (.mapThread fun t => { t with memberCount := a.memberCount })
  | _ => c.channels

/-- The membership that comes with a thread as it is kept. -/
def placeMembership (c : Cache) (threadId : Snowflake) (m : ThreadMember) : ThreadMember :=
  { m with
    threadId
    userId := if m.userId = 0 then (c.selfUser.map SelfUser.id).getD 0 else m.userId }

def threadMembersAfter (now : Timestamp) (c : Cache) (e : Event) : GroupedStore ThreadMember :=
  match e with
  | .guildDelete r => c.threadMembers.eraseIf fun t _ _ => (c.guildThreadIds r.id).contains t
  | .channelUpdate _ | .channelDelete _ | .threadDelete _ =>
    c.threadMembers.eraseIf fun t _ _ => (c.evictedBy now e).contains t
  | .threadCreate o =>
    c.threadMembers.addAll (o.member.map (c.placeMembership o.thread.id)).toList
  | .threadListSync s => c.threadMembers.addAll s.members
  | .threadMemberUpdate m => c.threadMembers.add m.member
  | .threadMembersUpdate a =>
    ((c.threadMembers.addAll ((a.added.map (placeArrival a.id a.guildId)).map
      (·.threadMember))).takeAll a.id a.removedIds).2
  | _ => c.threadMembers

/-- A message as it is kept: one that names no guild is of its channel's, if that is cached. -/
def placeMessage (c : Cache) (m : Message) : Message :=
  { m with guildId := m.guildId <|> (c.channels.get? m.channelId).map (·.guildId) }

def messagesAfter (now : Timestamp) (c : Cache) (e : Event) : GroupedStore Message :=
  match e with
  | .messageCreate m => c.messages.add (c.placeMessage m)
  | .messageUpdate u => c.messages.add u.current
  | .messageDelete r => c.messages.erase r.channelId r.id
  | .messageDeleteBulk r => (c.messages.takeAll r.channelId r.ids).2
  | .guildDelete r =>
    c.messages.eraseIf fun ch _ m =>
      (c.guildChannelIds r.id).contains ch || m.guildId == some r.id
  | .channelUpdate _ | .channelDelete _ | .threadDelete _ =>
    c.messages.eraseIf fun ch _ _ => (c.evictedBy now e).contains ch
  | _ => c.messages

end Cache

/-- The channels of a guild go by the ids that they name, and by the guild that they name. -/
theorem Store.snd_takeGuild_eq (s : Store Channel) (guildId : Snowflake) :
    (s.takeGuild guildId).2 = s.eraseIf fun id ch =>
      ((s.ofGuild guildId).map (·.id)).contains id || ch.guildId == guildId := by
  have rest : (s.takeGuild guildId).2 =
      (s.takeAll ((s.ofGuild guildId).map (·.id))).2.eraseIf
        fun _ ch => ch.guildId == guildId := rfl
  rw [rest, snd_takeAll, eraseIf_eraseIf]

/-- The threads of a channel are all that name it as their parent. -/
theorem Store.mem_threadsIn {s : Store Channel} {parentId : Snowflake} {t : ThreadChannel} :
    t ∈ s.threadsIn parentId ↔ (∃ id, s.get? id = some (.thread t)) ∧ t.parentId = parentId := by
  have kind (ch : Channel) : ch.thread? = some t ↔ ch = .thread t := by
    cases ch <;> simp [Channel.thread?]
  simp only [threadsIn, List.mem_filter, List.mem_filterMap, kind, exists_eq_right, mem_values,
    beq_iff_eq]

namespace Cache

/-! ### Walks over the cache -/

theorem foldl_addChannel (channels : List Channel) (c : Cache) :
    channels.foldl addChannel c = { c with channels := c.channels.putAll Channel.id channels } := by
  induction channels generalizing c with
  | nil => rfl
  | cons ch channels ih => exact ih (c.addChannel ch)

theorem addThreads_eq (c : Cache) (guildId : Snowflake) (threads : List ThreadChannel) :
    c.addThreads guildId threads = { c with
      channels := c.channels.putAll Channel.id
        (threads.map fun t => .thread { t with guildId }) } := by
  rw [← foldl_addChannel, List.foldl_map]
  rfl

theorem foldl_setUnready (guilds : List GuildStub) (c : Cache) :
    guilds.foldl (fun c g => c.setUnready g.id true) c =
      { c with unready := guilds.foldl (fun s g => s.set g.id true) c.unready } := by
  induction guilds generalizing c with
  | nil => rfl
  | cons g guilds ih => exact ih (c.setUnready g.id true)

/-- Evicting channels in turn removes them, their messages and their thread members at once. -/
theorem evictChannels_eq (c : Cache) (ids : List Snowflake) :
    c.evictChannels ids = { c with
      threadMembers := c.threadMembers.eraseIf fun t _ _ => ids.contains t
      messages := c.messages.eraseIf fun ch _ _ => ids.contains ch
      channels := c.channels.eraseIf fun id _ => ids.contains id } := by
  -- Each of the three removals by a predicate is a walk over the ids of its own.
  rw [← GroupedStore.foldl_eraseGroup, ← GroupedStore.foldl_eraseGroup, ← Store.foldl_erase]
  induction ids generalizing c with
  | nil => rfl
  | cons id ids ih => exact ih (c.evictChannel id)

theorem evictGuildChannels_eq (c : Cache) (guildId : Snowflake) :
    c.evictGuildChannels guildId = { c with
      channels := (c.channels.takeGuild guildId).2
      threadMembers := c.threadMembers.eraseIf fun t _ _ => (c.guildThreadIds guildId).contains t
      messages := c.messages.eraseIf fun ch _ m =>
        (c.guildChannelIds guildId).contains ch || m.guildId == some guildId } := by
  rw [evictGuildChannels]
  simp only [GroupedStore.foldl_eraseGroup, GroupedStore.eraseIf_eraseIf]
  rfl

/-! ### The state after an event -/

theorem fst_startSession (c : Cache) (e : Ready) :
    (c.startSession e).1 = { c with
      selfUser := some e.user
      unready := e.guilds.foldl (fun s g => s.set g.id true) c.unready } :=
  foldl_setUnready e.guilds { c with selfUser := some e.user }

/-- The guilds of a session wait for their hydration, and so do those that did before. -/
theorem contains_foldl_set (guilds : List GuildStub) (s : IdSet) (id : Snowflake) :
    (guilds.foldl (fun s g => s.set g.id true) s).contains id =
      (guilds.any (·.id == id) || s.contains id) := by
  induction guilds generalizing s with
  | nil => rfl
  | cons g guilds ih =>
    rw [List.foldl_cons, ih, IdSet.contains_set_eq, List.any_cons]
    cases g.id == id <;> simp

/-- What an event does to the state, field by field. -/
theorem fst_apply (now : Timestamp) (c : Cache) (e : Event) :
    (c.apply now e).1 = {
      retention := c.retention
      selfUser := e.onSelf c.selfUser
      unready := e.onUnready c.unready
      unavailable := e.onUnavailable c.unavailable
      guilds := e.onGuilds c.guilds
      channels := c.channelsAfter now e
      roles := e.onRoles c.roles
      members := e.onMembers c.members
      threadMembers := c.threadMembersAfter now e
      presences := e.onPresences c.presences
      voiceStates := e.onVoiceStates c.voiceStates
      messages := c.messagesAfter now e
      emojis := e.onEmojis c.emojis
      stickers := e.onStickers c.stickers
      stageInstances := e.onStageInstances c.stageInstances
      scheduledEvents := e.onScheduledEvents c.scheduledEvents } := by
  cases e
  case ready e => exact fst_startSession c e
  case guildCreate h =>
    simp only [apply, hydrate, foldl_addChannel]
    rfl
  case guildDelete r =>
    obtain ⟨id, unavailable, oldGuild⟩ := r
    simp only [apply, deleteGuild, evictGuildChannels_eq]
    -- An outage and a departure differ in the two sets of guilds in transition.
    cases unavailable <;> rfl
  case channelUpdate e =>
    simp only [apply, changeChannel, evictChannels_eq]
    rfl
  case channelDelete e => exact evictChannels_eq c (c.evictedBy now (.channelDelete e))
  case threadCreate o =>
    obtain ⟨thread, newlyCreated, member⟩ := o
    cases member <;> rfl
  case threadDelete e => exact evictChannels_eq c [e.id]
  case threadListSync e =>
    simp only [apply, syncThreads, addThreads_eq]
    rfl
  -- The other handlers say what they change field by field themselves.
  all_goals rfl

theorem channels_apply (now : Timestamp) (c : Cache) (e : Event) :
    (c.apply now e).1.channels = c.channelsAfter now e := by
  rw [fst_apply]

theorem threadMembers_apply (now : Timestamp) (c : Cache) (e : Event) :
    (c.apply now e).1.threadMembers = c.threadMembersAfter now e := by
  rw [fst_apply]

theorem messages_apply (now : Timestamp) (c : Cache) (e : Event) :
    (c.apply now e).1.messages = c.messagesAfter now e := by
  rw [fst_apply]

end Cache

end GatewayCache
