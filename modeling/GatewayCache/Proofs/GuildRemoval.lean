import GatewayCache.Proofs.Invariant

/-!
What goes with a guild, exactly. The cascade finds the channels of the guild by a walk over the
store and removes them by id, so its extent is known because every channel is under its own id.
-/
namespace GatewayCache

/-! ### The channels of a guild -/

namespace Store

variable {on : Bool} {s : Store Channel}

/-- The channels of a guild are all that name it. -/
theorem Sound.mem_ofGuild (sound : s.Sound Channel.id on) {guildId : Snowflake} {ch : Channel} :
    ch ∈ s.ofGuild guildId ↔ s.get? ch.id = some ch ∧ ch.guildId = guildId := by
  rw [ofGuild, List.mem_filter, mem_values, beq_iff_eq]
  constructor
  · rintro ⟨⟨id, found⟩, same⟩
    have own := sound.inPlace id ch found
    rw [own]
    exact ⟨found, same⟩
  · rintro ⟨found, same⟩
    exact ⟨⟨ch.id, found⟩, same⟩

/-- What is removed by id is what is of the guild, and no other channel. -/
theorem Sound.mem_takeGuild (sound : s.Sound Channel.id on) {guildId : Snowflake} {ch : Channel} :
    ch ∈ (s.takeGuild guildId).1 ↔ s.get? ch.id = some ch ∧ ch.guildId = guildId := by
  have taken : (s.takeGuild guildId).1 =
      ((s.ofGuild guildId).map (·.id)).eraseDups.filterMap s.get? := fst_takeAll s _
  rw [taken, List.mem_filterMap]
  constructor
  · rintro ⟨id, listed, found⟩
    obtain ⟨other, member, rfl⟩ := List.mem_map.1 (List.mem_eraseDups.1 listed)
    obtain ⟨found', same⟩ := sound.mem_ofGuild.1 member
    -- Two channels under one id are one channel.
    rw [found'] at found
    cases found
    exact ⟨found', same⟩
  · rintro ⟨found, same⟩
    have member := sound.mem_ofGuild.2 ⟨found, same⟩
    exact ⟨ch.id, List.mem_eraseDups.2 (List.mem_map.2 ⟨ch, member, rfl⟩), found⟩

/-- A channel stays just if it is of another guild. -/
theorem Sound.get?_takeGuild (sound : s.Sound Channel.id on) {guildId id : Snowflake}
    {ch : Channel} :
    (s.takeGuild guildId).2.get? id = some ch ↔ s.get? id = some ch ∧ ch.guildId ≠ guildId := by
  rw [snd_takeGuild_eq, get?_eraseIf, Option.filter_eq_some_iff]
  simp only [Bool.not_eq_true', Bool.or_eq_false_iff, beq_eq_false_iff_ne]
  constructor
  · rintro ⟨found, _, other⟩
    exact ⟨found, other⟩
  · rintro ⟨found, other⟩
    refine ⟨found, ?_, other⟩
    -- An id on the list is that of a channel of the guild, which this one is not.
    rw [List.contains_eq_mem, decide_eq_false_iff_not]
    intro listed
    obtain ⟨gone, member, own⟩ := List.mem_map.1 listed
    obtain ⟨found', same⟩ := sound.mem_ofGuild.1 member
    rw [own, found] at found'
    cases found'
    exact other same

theorem Sound.snd_takeGuild (sound : s.Sound Channel.id on) (guildId : Snowflake) :
    (s.takeGuild guildId).2 = s.eraseIf fun _ ch => ch.guildId == guildId := by
  have retains : (s.takeGuild guildId).2.retains = s.retains :=
    (sound.takeGuild guildId).retains.trans sound.retains.symm
  -- The walk goes by the channels that it finds in the guild, so it is compared by lookups.
  refine ext_get? retains fun id => ?_
  ext ch
  rw [sound.get?_takeGuild, get?_eraseIf, Option.filter_eq_some_iff]
  simp

end Store

namespace Cache

variable {flags : Retention} {c : Cache} {guildId id : Snowflake}

theorem Sound.mem_guildChannelIds (sound : c.Sound flags) :
    id ∈ c.guildChannelIds guildId ↔
      ∃ ch, c.channels.get? id = some ch ∧ ch.guildId = guildId := by
  rw [guildChannelIds, List.mem_map]
  constructor
  · rintro ⟨ch, member, rfl⟩
    exact ⟨ch, sound.channels.mem_takeGuild.1 member⟩
  · rintro ⟨ch, found, same⟩
    -- The list has the channel's own id, which is the id it is found under.
    obtain rfl := sound.channels.inPlace id ch found
    exact ⟨ch, sound.channels.mem_takeGuild.2 ⟨found, same⟩, rfl⟩

theorem Sound.mem_guildThreadIds (sound : c.Sound flags) :
    id ∈ c.guildThreadIds guildId ↔
      ∃ t, c.channels.get? id = some (.thread t) ∧ t.guildId = guildId := by
  rw [guildThreadIds, List.mem_map]
  constructor
  · rintro ⟨ch, member, rfl⟩
    obtain ⟨taken, kind⟩ := List.mem_filter.1 member
    have found := sound.channels.mem_takeGuild.1 taken
    cases ch
    case thread t => exact ⟨t, found⟩
    all_goals cases kind
  · rintro ⟨t, found, same⟩
    have own : t.id = id := sound.channels.inPlace id (.thread t) found
    subst own
    have taken : Channel.thread t ∈ (c.channels.takeGuild guildId).1 :=
      sound.channels.mem_takeGuild.2 ⟨found, same⟩
    exact ⟨.thread t, List.mem_filter.2 ⟨taken, rfl⟩, rfl⟩

/-! ### The whole cascade -/

/-- How the cache `c'` after the removal of a guild differs from the cache `c` before. -/
structure Removes (guildId : Snowflake) (outage : Bool) (c c' : Cache) : Prop where
  retention : c'.retention = c.retention
  selfUser : c'.selfUser = c.selfUser
  guilds : ∀ id, c'.guilds.get? id = if id = guildId then none else c.guilds.get? id
  /-- All but thread members and messages are filed under their guild. -/
  shelves : ∀ k : Shelf, k ≠ .threadMembers → k ≠ .messages → ∀ owner id,
    (k.store c').get? owner id = if owner = guildId then none else (k.store c).get? owner id
  channels : ∀ id ch, c'.channels.get? id = some ch ↔
    c.channels.get? id = some ch ∧ ch.guildId ≠ guildId
  threadMembers : ∀ threadId id m, c'.threadMembers.get? threadId id = some m ↔
    c.threadMembers.get? threadId id = some m ∧
      ¬∃ t, c.channels.get? threadId = some (.thread t) ∧ t.guildId = guildId
  messages : ∀ channelId id m, c'.messages.get? channelId id = some m ↔
    c.messages.get? channelId id = some m ∧
      (¬∃ ch, c.channels.get? channelId = some ch ∧ ch.guildId = guildId) ∧
      m.guildId ≠ some guildId
  unready : ∀ id, c'.unready.contains id =
    if id = guildId ∧ ¬outage then false else c.unready.contains id
  unavailable : ∀ id, c'.unavailable.contains id =
    if id = guildId then outage else c.unavailable.contains id

/-- A shelf of entities of guilds loses the guild's group and nothing else. -/
theorem store_guildDelete (now : Timestamp) (c : Cache) (r : GuildRemoval) (k : Shelf)
    (notThreads : k ≠ .threadMembers) (notMessages : k ≠ .messages) :
    k.store (c.apply now (.guildDelete r)).1 = (k.store c).eraseGroup r.id := by
  rw [fst_apply]
  cases k
  -- These two are filed under a channel and go by the channels of the guild.
  case threadMembers => exact absurd rfl notThreads
  case messages => exact absurd rfl notMessages
  all_goals rfl

theorem Sound.removes (sound : c.Sound flags) (now : Timestamp) (r : GuildRemoval) :
    Removes r.id r.unavailable c (c.apply now (.guildDelete r)).1 where
  retention := by rw [fst_apply]
  selfUser := by rw [fst_apply]; rfl
  guilds id := by
    rw [fst_apply]
    exact Store.get?_erase c.guilds r.id id
  shelves k notThreads notMessages owner id := by
    rw [store_guildDelete now c r k notThreads notMessages]
    exact GroupedStore.get?_eraseGroup ..
  channels id ch := by
    rw [fst_apply]
    exact sound.channels.get?_takeGuild
  threadMembers threadId id m := by
    have after : (c.apply now (.guildDelete r)).1.threadMembers =
        c.threadMembers.eraseIf fun t _ _ => (c.guildThreadIds r.id).contains t := by
      rw [fst_apply]
      rfl
    rw [after, GroupedStore.get?_eraseIf, Option.filter_eq_some_iff, ← sound.mem_guildThreadIds]
    simp only [List.contains_eq_mem, Bool.not_eq_true', decide_eq_false_iff_not]
  messages channelId id m := by
    have after : (c.apply now (.guildDelete r)).1.messages = c.messages.eraseIf fun ch _ m =>
        (c.guildChannelIds r.id).contains ch || m.guildId == some r.id := by
      rw [fst_apply]
      rfl
    rw [after, GroupedStore.get?_eraseIf, Option.filter_eq_some_iff, ← sound.mem_guildChannelIds]
    simp only [List.contains_eq_mem, Bool.not_eq_true', Bool.or_eq_false_iff,
      decide_eq_false_iff_not, beq_eq_false_iff_ne, ne_eq]
  unready id := by
    have after : (c.apply now (.guildDelete r)).1.unready =
        if r.unavailable then c.unready else c.unready.set r.id false := by
      rw [fst_apply]
      rfl
    rw [after]
    cases outage : r.unavailable <;> by_cases same : id = r.id <;>
      simp [IdSet.contains_set, same]
  unavailable id := by
    rw [fst_apply]
    exact IdSet.contains_set ..

/--
After any session the deletion of a guild removes what is of the guild and nothing else, and
reports the guild as it was cached.
-/
theorem guildDelete_removes (flags : Retention) (calls : List Call) (now : Timestamp)
    (r : GuildRemoval) :
    let c := session flags calls
    Removes r.id r.unavailable c (c.apply now (.guildDelete r)).1 ∧
      (c.apply now (.guildDelete r)).2 =
        .guildDelete { r with oldGuild := c.guilds.get? r.id } := by
  intro c
  have sound : c.Sound flags := session_sound flags calls
  exact ⟨sound.removes now r, rfl⟩

end Cache

end GatewayCache
