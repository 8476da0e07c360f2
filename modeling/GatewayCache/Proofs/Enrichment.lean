import GatewayCache.Proofs.Invariant

/-!
What comes back of an event. The values that it displaced are those the cache held before it, except
that who joins and leaves a thread in one event counts as having been there.
-/
namespace GatewayCache

/-! ### What a replacement takes out -/

namespace GroupedStore

variable {V : Type} [Filed V] {on : Bool} {s : GroupedStore V}

/-- Removing some values of a group by their ids gives just those values. -/
theorem Sound.fst_takeAll_filter (sound : s.Sound on) (g : Snowflake) (stale : Snowflake → Bool) :
    (s.takeAll g (((s.groupValues g).map Filed.key).filter stale)).1 =
      (s.groupValues g).filter fun v => stale (Filed.key v) := by
  have distinct : (((s.groupValues g).map Filed.key).filter stale).Nodup :=
    (sound.nodup_keys g).filter stale
  rw [fst_takeAll, eraseDups_of_nodup distinct, List.filter_map]
  -- A value that is listed is still there when its own id is removed.
  refine filterMap_map_key Filed.key (s.get? g) _ fun v member => ?_
  exact sound.mem_groupValues.1 (List.mem_filter.1 member).1

/-- Of a group whose values are replaced those go that no new value has the id of. -/
theorem Sound.fst_takeAll_replaced (sound : s.Sound on) (g : Snowflake) (place : V → V)
    (same : ∀ v, Filed.key (place v) = Filed.key v) (new : List V) :
    (s.takeAll g (((s.groupValues g).map Filed.key).filter
        fun id => !(new.map place).any (Filed.key · == id))).1 =
      (s.groupValues g).filter fun old => !new.any (Filed.key · == Filed.key old) := by
  rw [sound.fst_takeAll_filter]
  refine List.filter_congr fun old _ => ?_
  -- Placing the new values does not change their ids.
  rw [List.any_map]
  simp only [Function.comp_def, same]

end GroupedStore

/-! ### The event as it comes back -/

namespace Cache

/-- A thread member as it is known once the arrivals of an event are kept. -/
def attendant? (c : Cache) (a : Attendance) (id : Snowflake) : Option ThreadMember :=
  if c.retention.keeps .threadMembers then
    let arrivals := a.added.map fun x => { x.threadMember with threadId := a.id }
    (arrivals.findRev? (·.userId == id)).or (c.threadMembers.get? a.id id)
  else none

/-- The event with its nested parent ids, and with what it displaces from a cache. -/
def enriched (c : Cache) : Event → Event
  | .userUpdate e => .userUpdate { e with old := c.selfUser }
  | .messageCreate m => .messageCreate (c.placeMessage m)
  | .messageUpdate e =>
    .messageUpdate { e with old := c.messages.get? e.current.channelId e.current.id }
  | .messageDelete e => .messageDelete { e with oldMessage := c.messages.get? e.channelId e.id }
  | .messageDeleteBulk e => .messageDeleteBulk { e with
      oldMessages := e.ids.eraseDups.filterMap (c.messages.get? e.channelId) }
  | .guildCreate h => .guildCreate h.placed
  | .guildUpdate e => .guildUpdate { e with old := c.guilds.get? e.current.id }
  | .guildDelete e => .guildDelete { e with oldGuild := c.guilds.get? e.id }
  | .channelUpdate e => .channelUpdate { e with old := c.channels.get? e.current.id }
  | .channelDelete e => .channelDelete { e with old := c.channels.get? e.current.id }
  | .channelPinsUpdate e => .channelPinsUpdate { e with
      oldLastPin := (c.channels.get? e.channelId).bind Channel.lastPin? }
  | .threadCreate e => .threadCreate { e with
      member := e.member.map (c.placeMembership e.thread.id) }
  | .threadUpdate e => .threadUpdate { e with
      old := (c.channels.get? e.current.id).bind Channel.thread? }
  | .threadDelete e => .threadDelete { e with
      oldThread := (c.channels.get? e.id).bind Channel.thread? }
  | .threadListSync e => .threadListSync { e with
      threads := e.threads.map fun t => { t with guildId := e.guildId } }
  | .threadMembersUpdate e => .threadMembersUpdate { e with
      added := e.added.map (placeArrival e.id e.guildId)
      removedMembers := e.removedIds.eraseDups.filterMap (c.attendant? e) }
  | .guildRoleCreate e => .guildRoleCreate { e with role := { e.role with guildId := e.guildId } }
  | .guildRoleUpdate e => .guildRoleUpdate { e with
      role := { e.role with guildId := e.guildId }
      oldRole := c.roles.get? e.guildId e.role.id }
  | .guildRoleDelete e => .guildRoleDelete { e with oldRole := c.roles.get? e.guildId e.roleId }
  | .guildScheduledEventUpdate e => .guildScheduledEventUpdate { e with
      old := c.scheduledEvents.get? e.current.guildId e.current.id }
  | .guildScheduledEventDelete e => .guildScheduledEventDelete { e with
      old := c.scheduledEvents.get? e.current.guildId e.current.id }
  | .stageInstanceUpdate e => .stageInstanceUpdate { e with
      old := c.stageInstances.get? e.current.guildId e.current.id }
  | .stageInstanceDelete e => .stageInstanceDelete { e with
      old := c.stageInstances.get? e.current.guildId e.current.id }
  | .guildMemberUpdate e => .guildMemberUpdate { e with
      old := c.members.get? e.current.guildId e.current.userId }
  | .guildMemberRemove e => .guildMemberRemove { e with
      oldMember := c.members.get? e.guildId e.user.id }
  | .guildMembersChunk e => .guildMembersChunk { e with
      members := e.members.map fun m => { m with guildId := e.guildId }
      presences := e.presences.map fun p => { p with guildId := e.guildId } }
  | .guildEmojisUpdate e => .guildEmojisUpdate { e with
      emojis := e.emojis.map fun x => { x with guildId := e.guildId }
      removedEmojis := (c.emojis.groupValues e.guildId).filter
        fun old => !e.emojis.any (·.id == old.id) }
  | .guildStickersUpdate e => .guildStickersUpdate { e with
      stickers := e.stickers.map fun x => { x with guildId := some e.guildId }
      removedStickers := (c.stickers.groupValues e.guildId).filter
        fun old => !e.stickers.any (·.id == old.id) }
  | .presenceUpdate e => .presenceUpdate { e with
      old := c.presences.get? e.current.guildId e.current.userId }
  | .voiceStateUpdate e => .voiceStateUpdate { e with
      member := e.member.map fun m => { m with guildId := e.voiceState.guildId }
      oldVoiceState := c.voiceStates.get? e.voiceState.guildId e.voiceState.userId }
  | e => e

variable {flags : Retention} {c : Cache}

/-- Once an event's arrivals are kept, its thread members are as `attendant?` has them. -/
theorem Sound.get?_arrivals (sound : c.Sound flags) (a : Attendance) :
    (c.threadMembers.addAll ((a.added.map (placeArrival a.id a.guildId)).map
      (·.threadMember))).get? a.id = c.attendant? a := by
  funext id
  have arrivals : (a.added.map (placeArrival a.id a.guildId)).map (·.threadMember) =
      a.added.map fun x => { x.threadMember with threadId := a.id } := List.map_map
  have owned : ∀ m ∈ a.added.map fun x => { x.threadMember with threadId := a.id },
      Filed.owner? m = some a.id := List.forall_mem_map.2 fun _ _ => rfl
  have retains : c.threadMembers.retains = c.retention.keeps .threadMembers := by
    rw [sound.retention]
    exact (sound.shelves .threadMembers).retains
  rw [arrivals, GroupedStore.get?_addAll, GroupedStore.lastFiled_of_owner owned, if_pos rfl,
    retains]
  rfl

/-- What comes back of an event, variant by variant. -/
theorem Sound.snd_apply (sound : c.Sound flags) (now : Timestamp) (e : Event) :
    (c.apply now e).2 = c.enriched e := by
  cases e
  case messageDeleteBulk e =>
    have taken := c.messages.fst_takeAll e.channelId e.ids
    exact congrArg (fun oldMessages => Event.messageDeleteBulk { e with oldMessages }) taken
  case threadCreate e =>
    obtain ⟨thread, newlyCreated, member⟩ := e
    cases member <;> rfl
  case threadMembersUpdate e =>
    have taken := (c.threadMembers.addAll ((e.added.map (placeArrival e.id e.guildId)).map
      (·.threadMember))).fst_takeAll e.id e.removedIds
    rw [sound.get?_arrivals] at taken
    exact congrArg (fun removedMembers => Event.threadMembersUpdate { e with
      added := e.added.map (placeArrival e.id e.guildId), removedMembers }) taken
  case guildEmojisUpdate e =>
    have store : c.emojis.Sound (flags.keeps .emojis) := sound.shelves .emojis
    have taken := store.fst_takeAll_replaced e.guildId
      (fun x => { x with guildId := e.guildId }) (fun _ => rfl) e.emojis
    exact congrArg (fun removedEmojis => Event.guildEmojisUpdate { e with
      emojis := e.emojis.map fun x => { x with guildId := e.guildId }, removedEmojis }) taken
  case guildStickersUpdate e =>
    have store : c.stickers.Sound (flags.keeps .stickers) := sound.shelves .stickers
    have taken := store.fst_takeAll_replaced e.guildId
      (fun x => { x with guildId := some e.guildId }) (fun _ => rfl) e.stickers
    exact congrArg (fun removedStickers => Event.guildStickersUpdate { e with
      stickers := e.stickers.map fun x => { x with guildId := some e.guildId }
      removedStickers }) taken
  -- The other variants look their old value up before they change anything, or have none.
  all_goals rfl

theorem dispatch_enriched (c : Cache) (e : Event) : (c.enriched e).dispatch = e.dispatch := by
  cases e <;> rfl

/--
After any session an event comes back as the same event with its nested parent ids, and with what
it displaced, whatever was in those fields when it came.
-/
theorem apply_returns_enriched (flags : Retention) (calls : List Call) (now : Timestamp)
    (e : Event) :
    let c := session flags calls
    (c.apply now e).2 = c.enriched e ∧ (c.apply now e).2.dispatch = e.dispatch := by
  intro c
  have returned : (c.apply now e).2 = c.enriched e := (session_sound flags calls).snd_apply now e
  constructor
  · exact returned
  · rw [returned]
    exact c.dispatch_enriched e

end Cache

end GatewayCache
