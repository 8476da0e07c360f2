import GatewayCache.Proofs.Session
import GatewayCache.Proofs.Transition

/-!
The invariant of the cache: every entity is kept under its own ids, no group is empty, and a
category that is not retained holds nothing. Every call preserves it, so every session has it.
-/
namespace GatewayCache

/-! ### Single-level stores -/

namespace Store

variable {V : Type} {key : V → Snowflake} {on : Bool} {s t : Store V}

/-- Every value is under its own id, and values are retained just if `on`. -/
structure Sound (key : V → Snowflake) (on : Bool) (s : Store V) : Prop where
  retains : s.retains = on
  inPlace : ∀ id v, s.get? id = some v → key v = id

/-- Nothing is found, listed or counted. -/
structure Vacant (s : Store V) : Prop where
  misses : ∀ id, s.get? id = none
  values : s.values = []
  size : s.size = 0

theorem vacant_of_not_retains (off : s.retains = false) : s.Vacant where
  misses := get?_of_not_retains off
  values := by rw [values, s.unretained off]; rfl
  size := by rw [size, s.unretained off]; rfl

namespace Sound

/-- A store stays sound if all that is found in it later was there before or is in its place. -/
theorem of_get? (sound : s.Sound key on) (retains : t.retains = s.retains)
    (known : ∀ id v, t.get? id = some v → s.get? id = some v ∨ key v = id) : t.Sound key on := by
  constructor
  · exact retains.trans sound.retains
  · intro id v found
    rcases known id v found with before | placed
    · exact sound.inPlace id v before
    · exact placed

theorem empty : (Store.empty on).Sound key on := ⟨rfl, fun _ _ found => by simp at found⟩

theorem put (sound : s.Sound key on) (v : V) : (s.put (key v) v).Sound key on := by
  refine sound.of_get? (retains_put ..) ?_
  intro id w found
  rw [get?_put] at found
  split at found
  next here =>
    cases found
    exact .inr here.2.symm
  next => exact .inl found

theorem putAll (sound : s.Sound key on) (values : List V) : (s.putAll key values).Sound key on := by
  induction values generalizing s with
  | nil => exact sound
  | cons v values ih => exact ih (sound.put v)

theorem eraseIf (sound : s.Sound key on) (drop : Snowflake → V → Bool) :
    (s.eraseIf drop).Sound key on := by
  refine sound.of_get? rfl ?_
  intro id v found
  exact .inl (found_of_eraseIf found)

theorem erase (sound : s.Sound key on) (id : Snowflake) : (s.erase id).Sound key on := by
  rw [erase_eq_eraseIf]
  exact sound.eraseIf _

/-- A change in place must leave the id alone. -/
theorem modify (sound : s.Sound key on) (id : Snowflake) {f : V → V}
    (same : ∀ v, key (f v) = key v) : (s.modify id f).Sound key on := by
  constructor
  · exact sound.retains
  · intro k v found
    rw [get?_modify] at found
    split at found
    · obtain ⟨old, before, rfl⟩ := Option.map_eq_some_iff.1 found
      rw [same]
      exact sound.inPlace k old before
    · exact sound.inPlace k v found

theorem takeGuild {s : Store Channel} (sound : s.Sound Channel.id on) (guildId : Snowflake) :
    (s.takeGuild guildId).2.Sound Channel.id on := by
  refine eraseIf ?_ _
  rw [snd_takeAll]
  exact sound.eraseIf _

/-- The threads of a channel go by the ids that they are under. -/
theorem mem_threadIds {s : Store Channel} (sound : s.Sound Channel.id on)
    {parentId id : Snowflake} :
    id ∈ (s.threadsIn parentId).map (·.id) ↔
      ∃ t, s.get? id = some (.thread t) ∧ t.parentId = parentId := by
  rw [List.mem_map]
  constructor
  · rintro ⟨t, child, rfl⟩
    obtain ⟨⟨key, found⟩, parent⟩ := mem_threadsIn.1 child
    obtain rfl : t.id = key := sound.inPlace key (.thread t) found
    exact ⟨t, found, parent⟩
  · rintro ⟨t, found, parent⟩
    have own : t.id = id := sound.inPlace id (.thread t) found
    exact ⟨t, mem_threadsIn.2 ⟨⟨id, found⟩, parent⟩, own⟩

end Sound

end Store

/-! ### Two-level stores -/

namespace GroupedStore

variable {V : Type} {on : Bool} {s t : GroupedStore V}

/-- Nothing is found or counted, in any group or over all of them. -/
structure Vacant (s : GroupedStore V) : Prop where
  misses : ∀ g id, s.get? g id = none
  groupValues : ∀ g, s.groupValues g = []
  groupSize : ∀ g, s.groupSize g = 0
  size : s.size = 0

theorem vacant_of_not_retains (off : s.retains = false) : s.Vacant where
  misses := get?_of_not_retains off
  groupValues g := by rw [groupValues, group_of_not_retains off]; rfl
  groupSize g := by rw [groupSize, group_of_not_retains off]; rfl
  size := by rw [size, entries, s.unretained off]; rfl

/-- A group that is present has something in it. -/
theorem size_pos_of_group {g : Snowflake} {members : IdMap V}
    (present : s.groups.get? g = some members) : 0 < members.size := by
  have filled := s.inhabited g members present
  exact Nat.pos_of_ne_zero fun none => filled (IdMap.size_eq_zero.1 none)

variable [Filed V]

/-- Every value is under its owner's id and its own, and values are retained just if `on`. -/
structure Sound (on : Bool) (s : GroupedStore V) : Prop where
  retains : s.retains = on
  inPlace : ∀ g id v, s.get? g id = some v → Filed.owner? v = some g ∧ Filed.key v = id

namespace Sound

/-- A store stays sound if all that is found in it later was there before or is in its place. -/
theorem of_get? (sound : s.Sound on) (retains : t.retains = s.retains)
    (known : ∀ g id v, t.get? g id = some v →
      s.get? g id = some v ∨ (Filed.owner? v = some g ∧ Filed.key v = id)) : t.Sound on := by
  constructor
  · exact retains.trans sound.retains
  · intro g id v found
    rcases known g id v found with before | placed
    · exact sound.inPlace g id v before
    · exact placed

theorem empty : (GroupedStore.empty on : GroupedStore V).Sound on :=
  ⟨rfl, fun _ _ _ found => by simp at found⟩

theorem add (sound : s.Sound on) (v : V) : (s.add v).Sound on := by
  refine sound.of_get? (retains_add ..) ?_
  intro g id w found
  rw [get?_add] at found
  split at found
  next here =>
    cases found
    exact .inr here.2
  next => exact .inl found

theorem addAll (sound : s.Sound on) (values : List V) : (s.addAll values).Sound on := by
  induction values generalizing s with
  | nil => exact sound
  | cons v values ih => exact ih (sound.add v)

theorem eraseIf (sound : s.Sound on) (drop : Snowflake → Snowflake → V → Bool) :
    (s.eraseIf drop).Sound on := by
  refine sound.of_get? rfl ?_
  intro g id v found
  exact .inl (found_of_eraseIf found)

theorem erase (sound : s.Sound on) (g id : Snowflake) : (s.erase g id).Sound on := by
  rw [erase_eq_eraseIf]
  exact sound.eraseIf _

theorem eraseGroup (sound : s.Sound on) (g : Snowflake) : (s.eraseGroup g).Sound on := by
  rw [eraseGroup_eq_eraseIf]
  exact sound.eraseIf _

theorem takeAll (sound : s.Sound on) (g : Snowflake) (ids : List Snowflake) :
    (s.takeAll g ids).2.Sound on := by
  rw [snd_takeAll]
  exact sound.eraseIf _

theorem replaceGroup (sound : s.Sound on) (owner : Snowflake) (values : List V) :
    (s.replaceGroup owner values).Sound on :=
  (sound.takeAll owner _).addAll values

/-- A value is among the values of its group. -/
theorem mem_groupValues (sound : s.Sound on) {g : Snowflake} {v : V} :
    v ∈ s.groupValues g ↔ s.get? g (Filed.key v) = some v := by
  rw [GroupedStore.mem_groupValues]
  constructor
  · rintro ⟨id, found⟩
    have placed := (sound.inPlace g id v found).2
    rw [placed]
    exact found
  · intro found
    exact ⟨_, found⟩

/-- The values of a group name the ids that they are under. -/
theorem map_key_groupValues (sound : s.Sound on) (g : Snowflake) :
    (s.groupValues g).map Filed.key = (s.group g).ids := by
  rw [groupValues, IdMap.values, IdMap.ids, List.map_map]
  refine List.map_congr_left fun e member => ?_
  have found : s.get? g e.1 = some e.2 := IdMap.get?_eq_some_iff.2 member
  exact (sound.inPlace g e.1 e.2 found).2

theorem nodup_keys (sound : s.Sound on) (g : Snowflake) :
    ((s.groupValues g).map Filed.key).Nodup := by
  rw [sound.map_key_groupValues]
  exact IdMap.nodup_ids _

theorem mem_keys (sound : s.Sound on) {g id : Snowflake} :
    id ∈ (s.groupValues g).map Filed.key ↔ ∃ v, s.get? g id = some v := by
  rw [sound.map_key_groupValues]
  exact IdMap.mem_ids

/-- A replaced group holds the last new value with an id, and other groups what they held. -/
theorem get?_replaceGroup (sound : s.Sound on) {owner : Snowflake} {values : List V}
    (owned : ∀ v ∈ values, Filed.owner? v = some owner) (g id : Snowflake) :
    (s.replaceGroup owner values).get? g id =
      if g = owner then if on then lastFiled g id values else none else s.get? g id := by
  rw [GroupedStore.replaceGroup, get?_addAll, snd_takeAll, retains_eraseIf, sound.retains,
    get?_eraseIf, lastFiled_of_owner owned]
  by_cases here : g = owner
  · subst here
    rw [if_pos rfl, if_pos rfl]
    cases new : values.findRev? fun v => Filed.key v == id with
    | some v => rfl
    | none =>
      -- Without a new value the id is stale if there is anything under it.
      have unlisted : values.any (Filed.key · == id) = false := by
        simpa using findRev?_eq_none_iff.1 new
      cases found : s.get? g id with
      | none => rfl
      | some v =>
        have listed : id ∈ (s.groupValues g).map Filed.key := sound.mem_keys.2 ⟨v, found⟩
        have stale : id ∈ ((s.groupValues g).map Filed.key).filter
            fun id => !(values.any (Filed.key · == id)) :=
          List.mem_filter.2 ⟨listed, by rw [unlisted]; rfl⟩
        simp only [List.contains_eq_mem, stale, beq_self_eq_true, Option.filter_some]
        rfl
  · have elsewhere : owner ≠ g := fun same => here same.symm
    rw [if_neg elsewhere, if_neg here, beq_eq_false_iff_ne.2 here, Option.none_or]
    cases on with
    | false => exact (get?_of_not_retains sound.retains g id).symm
    | true => cases s.get? g id <;> rfl

theorem replaceGroup_replaceGroup (sound : s.Sound on) {owner : Snowflake} {values : List V}
    (owned : ∀ v ∈ values, Filed.owner? v = some owner) :
    (s.replaceGroup owner values).replaceGroup owner values = s.replaceGroup owner values := by
  have once := sound.replaceGroup owner values
  have twice := once.replaceGroup owner values
  refine ext_get? (twice.retains.trans once.retains.symm) fun g id => ?_
  rw [once.get?_replaceGroup owned, sound.get?_replaceGroup owned]
  split <;> rfl

end Sound

end GroupedStore

/-! ### Members that lose a role -/

namespace Member

theorem withoutRole_withoutRole (m : Member) (roleId : Snowflake) :
    (m.withoutRole roleId).withoutRole roleId = m.withoutRole roleId := by
  simp [withoutRole]

theorem withoutRole_of_not_contains {m : Member} {roleId : Snowflake}
    (absent : m.roles.contains roleId = false) : m.withoutRole roleId = m := by
  have kept : m.roles.filter (· != roleId) = m.roles := by
    refine List.filter_eq_self.2 fun r member => bne_iff_ne.2 ?_
    rintro rfl
    simp [member] at absent
  rw [withoutRole, kept]

end Member

namespace GroupedStore

/-- Changing several entries of a group by a step that counts only once. -/
theorem get?_foldl_modify {V : Type} (s : GroupedStore V) (g : Snowflake) (f : V → V)
    (once : ∀ v, f (f v) = f v) (ids : List Snowflake) (k id : Snowflake) :
    (ids.foldl (fun s id => s.modify g id f) s).get? k id =
      if k = g ∧ id ∈ ids then (s.get? k id).map f else s.get? k id := by
  induction ids generalizing s with
  | nil => simp
  | cons first ids ih =>
    rw [List.foldl_cons, ih, get?_modify]
    -- An id that occurs again is changed again, which `once` makes no difference.
    by_cases here : k = g
    · by_cases same : id = first <;> by_cases later : id ∈ ids <;>
        cases s.get? k id <;> simp [here, same, later, once]
    · simp [here]

@[simp] theorem retains_foldl_modify {V : Type} (s : GroupedStore V) (g : Snowflake) (f : V → V)
    (ids : List Snowflake) : (ids.foldl (fun s id => s.modify g id f) s).retains = s.retains := by
  induction ids generalizing s with
  | nil => rfl
  | cons id ids ih => exact (ih (s.modify g id f)).trans (retains_modify ..)

/-- Every member of the guild is without the role afterwards, and nobody else is changed. -/
theorem Sound.get?_stripRole {on : Bool} {s : GroupedStore Member} (sound : s.Sound on)
    (guildId roleId k id : Snowflake) :
    (s.stripRole guildId roleId).get? k id =
      if k = guildId then (s.get? k id).map (·.withoutRole roleId) else s.get? k id := by
  rw [stripRole, get?_foldl_modify _ _ _ (fun m => m.withoutRole_withoutRole roleId)]
  by_cases here : k = guildId
  · subst here
    cases found : s.get? k id with
    | none => simp
    | some m =>
      -- The one member whose user id can be `id` is the one found there.
      have own : m.userId = id := (sound.inPlace k id m found).2
      have listed : ∀ m', m' ∈ s.groupValues k ∧ m'.userId = id → m' = m := by
        rintro m' ⟨member, same⟩
        have found' : s.get? k m'.userId = some m' := sound.mem_groupValues.1 member
        rw [same, found] at found'
        exact (Option.some.inj found').symm
      have member : m ∈ s.groupValues k := GroupedStore.mem_groupValues.2 ⟨id, found⟩
      cases has : m.roles.contains roleId with
      | true =>
        have holds : id ∈ ((s.groupValues k).filter (·.roles.contains roleId)).map (·.userId) :=
          List.mem_map.2 ⟨m, List.mem_filter.2 ⟨member, has⟩, own⟩
        rw [if_pos ⟨rfl, holds⟩, if_pos rfl]
      | false =>
        have lacks : id ∉ ((s.groupValues k).filter (·.roles.contains roleId)).map (·.userId) := by
          intro holds
          obtain ⟨m', holder, same⟩ := List.mem_map.1 holds
          obtain ⟨member', has'⟩ := List.mem_filter.1 holder
          rw [listed m' ⟨member', same⟩, has] at has'
          cases has'
        rw [if_neg fun both => lacks both.2, if_pos rfl, Option.map_some,
          Member.withoutRole_of_not_contains has]
  · rw [if_neg fun both => here both.1, if_neg here]

theorem Sound.stripRole {on : Bool} {s : GroupedStore Member} (sound : s.Sound on)
    (guildId roleId : Snowflake) : (s.stripRole guildId roleId).Sound on := by
  constructor
  · rw [GroupedStore.stripRole, retains_foldl_modify]
    exact sound.retains
  · intro g id m found
    rw [sound.get?_stripRole] at found
    split at found
    · obtain ⟨old, before, rfl⟩ := Option.map_eq_some_iff.1 found
      exact sound.inPlace g id old before
    · exact sound.inPlace g id m found

end GroupedStore

/-! ### Channels changed in place -/

namespace Channel

theorem id_mapThread {f : ThreadChannel → ThreadChannel} (same : ∀ t, (f t).id = t.id)
    (ch : Channel) : (ch.mapThread f).id = ch.id := by
  cases ch
  case thread t => exact same t
  all_goals rfl

theorem id_messageSent (messageId : Snowflake) (ch : Channel) :
    (ch.messageSent messageId).id = ch.id := by
  cases ch <;> rfl

theorem id_withLastPin (lastPin : Option Timestamp) (ch : Channel) :
    (ch.withLastPin lastPin).id = ch.id := by
  cases ch <;> rfl

end Channel

/-! ### The whole cache -/

namespace Cache

/-- Every part of a cache with the given retention is sound. -/
structure Sound (flags : Retention) (c : Cache) : Prop where
  retention : c.retention = flags
  guilds : c.guilds.Sound Guild.id (flags.keeps .guilds)
  channels : c.channels.Sound Channel.id (flags.keeps .channels)
  shelves : ∀ k : Shelf, (k.store c).Sound (flags.keeps k.category)

end Cache

namespace Event

variable {on : Bool} (e : Event)

theorem onGuilds_sound {s : Store Guild} (sound : s.Sound Guild.id on) :
    (e.onGuilds s).Sound Guild.id on := by
  unfold onGuilds
  split
  · exact sound.put _
  · exact sound.put _
  · exact sound.erase _
  -- The member count goes up and down in place.
  · exact sound.modify _ fun _ => rfl
  · exact sound.modify _ fun _ => rfl
  · exact sound

theorem onRoles_sound {s : GroupedStore Role} (sound : s.Sound on) : (e.onRoles s).Sound on := by
  unfold onRoles
  split
  · exact sound.addAll _
  · exact sound.eraseGroup _
  · exact sound.add _
  · exact sound.add _
  · exact sound.erase _ _
  · exact sound

theorem onMembers_sound {s : GroupedStore Member} (sound : s.Sound on) :
    (e.onMembers s).Sound on := by
  unfold onMembers
  split
  · exact sound.addAll _
  · exact sound.eraseGroup _
  · exact sound.addAll _
  · exact sound.stripRole _ _
  · exact sound.add _
  · exact sound.add _
  · exact sound.erase _ _
  · exact sound.addAll _
  · exact sound.addAll _
  · exact sound

theorem onPresences_sound {s : GroupedStore Presence} (sound : s.Sound on) :
    (e.onPresences s).Sound on := by
  unfold onPresences
  split
  · exact sound.addAll _
  · exact sound.eraseGroup _
  · exact sound.addAll _
  · exact sound.addAll _
  · exact sound.add _
  · exact sound

theorem onVoiceStates_sound {s : GroupedStore VoiceState} (sound : s.Sound on) :
    (e.onVoiceStates s).Sound on := by
  unfold onVoiceStates
  split
  · exact sound.addAll _
  · exact sound.eraseGroup _
  · -- A voice state with a channel is kept, and one without is dropped.
    split
    · exact sound.add _
    · exact sound.erase _ _
  · exact sound

theorem onEmojis_sound {s : GroupedStore Emoji} (sound : s.Sound on) :
    (e.onEmojis s).Sound on := by
  unfold onEmojis
  split
  · exact sound.addAll _
  · exact sound.eraseGroup _
  · exact sound.replaceGroup _ _
  · exact sound

theorem onStickers_sound {s : GroupedStore Sticker} (sound : s.Sound on) :
    (e.onStickers s).Sound on := by
  unfold onStickers
  split
  · exact sound.addAll _
  · exact sound.eraseGroup _
  · exact sound.replaceGroup _ _
  · exact sound

theorem onStageInstances_sound {s : GroupedStore StageInstance} (sound : s.Sound on) :
    (e.onStageInstances s).Sound on := by
  unfold onStageInstances
  split
  · exact sound.addAll _
  · exact sound.eraseGroup _
  · exact sound.add _
  · exact sound.add _
  · exact sound.erase _ _
  · exact sound

theorem onScheduledEvents_sound {s : GroupedStore ScheduledEvent} (sound : s.Sound on) :
    (e.onScheduledEvents s).Sound on := by
  unfold onScheduledEvents
  split
  · exact sound.addAll _
  · exact sound.eraseGroup _
  · exact sound.add _
  · exact sound.add _
  · exact sound.erase _ _
  · exact sound

end Event

namespace Cache

variable {flags : Retention} {c : Cache}

namespace Sound

theorem channelsAfter (sound : c.Sound flags) (now : Timestamp) (e : Event) :
    (c.channelsAfter now e).Sound Channel.id (flags.keeps .channels) := by
  unfold Cache.channelsAfter
  split
  -- Counters, last messages and pins are changed in place.
  · exact sound.channels.modify _ (Channel.id_messageSent _)
  · exact sound.channels.modify _ (Channel.id_mapThread fun _ => rfl)
  · exact sound.channels.modify _ (Channel.id_mapThread fun _ => rfl)
  · exact sound.channels.putAll _
  · exact sound.channels.takeGuild _
  · exact sound.channels.put _
  · exact (sound.channels.put _).eraseIf _
  · exact sound.channels.eraseIf _
  · exact sound.channels.eraseIf _
  · exact sound.channels.modify _ (Channel.id_withLastPin _)
  · exact sound.channels.put (.thread _)
  · exact sound.channels.put (.thread _)
  · exact sound.channels.putAll _
  · exact sound.channels.modify _ (Channel.id_mapThread fun _ => rfl)
  · exact sound.channels

theorem threadMembersAfter (sound : c.Sound flags) (now : Timestamp) (e : Event) :
    (c.threadMembersAfter now e).Sound (flags.keeps .threadMembers) := by
  have before : c.threadMembers.Sound (flags.keeps .threadMembers) := sound.shelves .threadMembers
  unfold Cache.threadMembersAfter
  split
  · exact before.eraseIf _
  · exact before.eraseIf _
  · exact before.eraseIf _
  · exact before.eraseIf _
  · exact before.addAll _
  · exact before.addAll _
  · exact before.add _
  · exact (before.addAll _).takeAll _ _
  · exact before

theorem messagesAfter (sound : c.Sound flags) (now : Timestamp) (e : Event) :
    (c.messagesAfter now e).Sound (flags.keeps .messages) := by
  have before : c.messages.Sound (flags.keeps .messages) := sound.shelves .messages
  unfold Cache.messagesAfter
  split
  · exact before.add _
  · exact before.add _
  · exact before.erase _ _
  · exact before.takeAll _ _
  · exact before.eraseIf _
  · exact before.eraseIf _
  · exact before.eraseIf _
  · exact before.eraseIf _
  · exact before

theorem empty (flags : Retention) : (Cache.empty flags).Sound flags where
  retention := rfl
  guilds := .empty
  channels := .empty
  shelves k := by cases k <;> exact .empty

/-- An event keeps the cache sound. -/
theorem apply (sound : c.Sound flags) (now : Timestamp) (e : Event) :
    (c.apply now e).1.Sound flags := by
  rw [fst_apply]
  constructor
  · exact sound.retention
  · exact e.onGuilds_sound sound.guilds
  · exact sound.channelsAfter now e
  · intro k
    have shelf := sound.shelves k
    cases k with
    | roles => exact e.onRoles_sound shelf
    | members => exact e.onMembers_sound shelf
    | threadMembers => exact sound.threadMembersAfter now e
    | presences => exact e.onPresences_sound shelf
    | voiceStates => exact e.onVoiceStates_sound shelf
    | messages => exact sound.messagesAfter now e
    | emojis => exact e.onEmojis_sound shelf
    | stickers => exact e.onStickers_sound shelf
    | stageInstances => exact e.onStageInstances_sound shelf
    | scheduledEvents => exact e.onScheduledEvents_sound shelf

/-- New content for one shelf leaves the rest of the cache as it is. -/
theorem withStore (sound : c.Sound flags) (k : Shelf) {s : GroupedStore k.Entity}
    (new : s.Sound (flags.keeps k.category)) : (k.withStore c s).Sound flags := by
  constructor
  -- The parts that are no shelves are the same whichever shelf it is.
  · cases k <;> exact sound.retention
  · cases k <;> exact sound.guilds
  · cases k <;> exact sound.channels
  · intro j
    rw [Shelf.store_withStore]
    split
    next same =>
      subst same
      exact new
    next => exact sound.shelves j

/-- A call keeps the cache sound. -/
theorem call (sound : c.Sound flags) (step : Call) : (c.call step).Sound flags := by
  cases step with
  | handle now e => exact sound.apply now e
  | setSelf user => exact { sound with }
  | addGuild g => exact { sound with guilds := sound.guilds.put g }
  | removeGuild id => exact { sound with guilds := sound.guilds.erase id }
  | setUnready id on => exact { sound with }
  | setUnavailable id on => exact { sound with }
  | addChannel ch => exact { sound with channels := sound.channels.put ch }
  | removeChannel id => exact { sound with channels := sound.channels.erase id }
  | removeChannelsOf guildId => exact { sound with channels := sound.channels.takeGuild guildId }
  | add k value => exact sound.withStore k ((sound.shelves k).add value)
  | remove k owner id => exact sound.withStore k ((sound.shelves k).erase owner id)
  | removeGroup k owner => exact sound.withStore k ((sound.shelves k).eraseGroup owner)
  | removeIf k drop => exact sound.withStore k ((sound.shelves k).eraseIf _)

theorem foldl_call (sound : c.Sound flags) (calls : List Call) :
    (calls.foldl Cache.call c).Sound flags := by
  induction calls generalizing c with
  | nil => exact sound
  | cons step calls ih => exact ih (sound.call step)

end Sound

/-- Every session leads to a sound cache. -/
theorem session_sound (flags : Retention) (calls : List Call) : (session flags calls).Sound flags :=
  (Sound.empty flags).foldl_call calls

/-! ### What a session cannot break -/

/-- Every entity is found only under the ids that it names itself. -/
structure InPlace (c : Cache) : Prop where
  guilds : ∀ id v, c.guilds.get? id = some v → v.id = id
  channels : ∀ id v, c.channels.get? id = some v → v.id = id
  roles : ∀ g id v, c.roles.get? g id = some v → v.guildId = g ∧ v.id = id
  members : ∀ g id v, c.members.get? g id = some v → v.guildId = g ∧ v.user.id = id
  threadMembers : ∀ t id v, c.threadMembers.get? t id = some v → v.threadId = t ∧ v.userId = id
  presences : ∀ g id v, c.presences.get? g id = some v → v.guildId = g ∧ v.userId = id
  voiceStates : ∀ g id v, c.voiceStates.get? g id = some v → v.guildId = g ∧ v.userId = id
  messages : ∀ ch id v, c.messages.get? ch id = some v → v.channelId = ch ∧ v.id = id
  emojis : ∀ g id v, c.emojis.get? g id = some v → v.guildId = g ∧ v.id = id
  stickers : ∀ g id v, c.stickers.get? g id = some v → v.guildId = some g ∧ v.id = id
  stageInstances : ∀ g id v, c.stageInstances.get? g id = some v → v.guildId = g ∧ v.id = id
  scheduledEvents : ∀ g id v, c.scheduledEvents.get? g id = some v → v.guildId = g ∧ v.id = id

namespace Sound

/-- On a shelf the owner that a value names is the group it is found in. -/
theorem placed (sound : c.Sound flags) (k : Shelf) {g id : Snowflake} {v : k.Entity}
    (found : (k.store c).get? g id = some v) : Filed.owner? v = some g ∧ Filed.key v = id :=
  (sound.shelves k).inPlace g id v found

theorem inPlace (sound : c.Sound flags) : c.InPlace where
  guilds := sound.guilds.inPlace
  channels := sound.channels.inPlace
  roles _ _ _ found := (sound.placed .roles found).imp_left Option.some.inj
  members _ _ _ found := (sound.placed .members found).imp_left Option.some.inj
  threadMembers _ _ _ found := (sound.placed .threadMembers found).imp_left Option.some.inj
  presences _ _ _ found := (sound.placed .presences found).imp_left Option.some.inj
  voiceStates _ _ _ found := (sound.placed .voiceStates found).imp_left Option.some.inj
  messages _ _ _ found := (sound.placed .messages found).imp_left Option.some.inj
  emojis _ _ _ found := (sound.placed .emojis found).imp_left Option.some.inj
  -- A sticker may be of no guild at all, but such a sticker is not kept.
  stickers _ _ _ found := sound.placed .stickers found
  stageInstances _ _ _ found := (sound.placed .stageInstances found).imp_left Option.some.inj
  scheduledEvents _ _ _ found := (sound.placed .scheduledEvents found).imp_left Option.some.inj

end Sound

/--
After any session every entity is in its place, no group is present without anything in it, and
a category that the flags leave out is vacant.
-/
theorem session_wellFormed (flags : Retention) (calls : List Call) :
    let c := session flags calls
    c.InPlace ∧
      (∀ (k : Shelf) (g : Snowflake) (members : IdMap k.Entity),
        (k.store c).groups.get? g = some members → 0 < members.size) ∧
      (flags.keeps .guilds = false → c.guilds.Vacant) ∧
      (flags.keeps .channels = false → c.channels.Vacant) ∧
      ∀ k : Shelf, flags.keeps k.category = false → (k.store c).Vacant := by
  intro c
  have sound : c.Sound flags := session_sound flags calls
  refine ⟨sound.inPlace, ?_, ?_, ?_, ?_⟩
  · intro k g members present
    exact GroupedStore.size_pos_of_group present
  -- What a store retains is fixed by the flags, and a store that retains nothing is vacant.
  · intro off
    exact Store.vacant_of_not_retains (sound.guilds.retains.trans off)
  · intro off
    exact Store.vacant_of_not_retains (sound.channels.retains.trans off)
  · intro k off
    exact GroupedStore.vacant_of_not_retains ((sound.shelves k).retains.trans off)

end Cache

end GatewayCache
