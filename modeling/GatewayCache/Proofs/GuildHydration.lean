import GatewayCache.Proofs.Invariant

/-!
What a hydration leaves behind, exactly. In each category the last entry of the payload with an id
takes the place of what was there, as an entry of the hydrated guild. Whatever the payload does not
name stays, and a category that is not retained stays empty beside those that are.
-/
namespace GatewayCache

namespace GroupedStore

variable {V : Type} [Filed V] {owner : Snowflake} {place : V → V}

/-- The store `s'` is `s` after the values are filed under the owner whose entries `place` makes
them. -/
structure Files (owner : Snowflake) (place : V → V) (values : List V) (s s' : GroupedStore V) :
    Prop where
  here : ∀ id, s'.get? owner id =
    if s.retains then ((values.findRev? (Filed.key · == id)).map place).or (s.get? owner id)
    else none
  elsewhere : ∀ g id, g ≠ owner → s'.get? g id = s.get? g id
  vacant : s.retains = false → s'.Vacant

theorem files_addAll (owned : ∀ v, Filed.owner? (place v) = some owner)
    (same : ∀ v, Filed.key (place v) = Filed.key v) (values : List V) (s : GroupedStore V) :
    Files owner place values s (s.addAll (values.map place)) where
  here id := by rw [get?_addAll, lastFiled_map owned same, if_pos rfl]
  elsewhere g id other := by
    rw [get?_addAll, lastFiled_map owned same, if_neg other.symm, Option.none_or]
    cases on : s.retains with
    | true => rfl
    | false => exact (get?_of_not_retains on g id).symm
  vacant off := vacant_of_not_retains ((retains_addAll s _).trans off)

end GroupedStore

theorem Channel.id_inGuild (guildId : Snowflake) (ch : Channel) :
    (ch.inGuild guildId).id = ch.id := by
  cases ch <;> rfl

namespace Hydration

/-- The channels of a payload in the order in which they are stored: its threads come last. -/
def allChannels (h : Hydration) : List Channel := h.channels ++ h.threads.map .thread

theorem allChannels_placed (h : Hydration) :
    h.placed.allChannels = h.allChannels.map (.inGuild h.guild.id) := by
  simp only [allChannels, placed, List.map_append, List.map_map]
  rfl

end Hydration

namespace Cache

/-- How the cache `c'` after a hydration differs from the cache `c` before. -/
structure Hydrates (h : Hydration) (c c' : Cache) : Prop where
  retention : c'.retention = c.retention
  selfUser : c'.selfUser = c.selfUser
  threadMembers : c'.threadMembers = c.threadMembers
  messages : c'.messages = c.messages
  unready : ∀ id, c'.unready.contains id =
    if id = h.guild.id then false else c.unready.contains id
  unavailable : ∀ id, c'.unavailable.contains id =
    if id = h.guild.id then false else c.unavailable.contains id
  guilds : ∀ id, c'.guilds.get? id =
    if c.guilds.retains ∧ id = h.guild.id then some h.guild else c.guilds.get? id
  guildsVacant : c.guilds.retains = false → c'.guilds.Vacant
  /-- A thread goes before a channel with the same id. -/
  channels : ∀ id, c'.channels.get? id =
    if c.channels.retains then
      ((h.allChannels.findRev? (·.id == id)).map (Channel.inGuild h.guild.id)).or
        (c.channels.get? id)
    else none
  channelsVacant : c.channels.retains = false → c'.channels.Vacant
  roles : c.roles.Files h.guild.id (fun r => { r with guildId := h.guild.id }) h.roles c'.roles
  members : c.members.Files h.guild.id (fun m => { m with guildId := h.guild.id }) h.members
    c'.members
  voiceStates : c.voiceStates.Files h.guild.id (fun v => { v with guildId := h.guild.id })
    h.voiceStates c'.voiceStates
  emojis : c.emojis.Files h.guild.id (fun e => { e with guildId := h.guild.id }) h.emojis c'.emojis
  stickers : c.stickers.Files h.guild.id (fun s => { s with guildId := some h.guild.id }) h.stickers
    c'.stickers
  stageInstances : c.stageInstances.Files h.guild.id (fun s => { s with guildId := h.guild.id })
    h.stageInstances c'.stageInstances
  scheduledEvents : c.scheduledEvents.Files h.guild.id (fun e => { e with guildId := h.guild.id })
    h.scheduledEvents c'.scheduledEvents
  presences : c.presences.Files h.guild.id (fun p => { p with guildId := h.guild.id }) h.presences
    c'.presences

theorem get?_channels_guildCreate (now : Timestamp) (c : Cache) (h : Hydration) (id : Snowflake) :
    (c.apply now (.guildCreate h)).1.channels.get? id =
      if c.channels.retains then
        ((h.allChannels.findRev? (·.id == id)).map (Channel.inGuild h.guild.id)).or
          (c.channels.get? id)
      else none := by
  have after : (c.apply now (.guildCreate h)).1.channels =
      c.channels.putAll Channel.id h.placed.allChannels := channels_apply now c (.guildCreate h)
  rw [after, Store.get?_putAll, Hydration.allChannels_placed, findRev?_map]
  simp only [Channel.id_inGuild]

theorem hydrates_apply (now : Timestamp) (c : Cache) (h : Hydration) :
    Hydrates h c (c.apply now (.guildCreate h)).1 := by
  have channels := get?_channels_guildCreate now c h
  rw [fst_apply] at channels ⊢
  constructor
  case unready => exact IdSet.contains_set c.unready h.guild.id false
  case unavailable => exact IdSet.contains_set c.unavailable h.guild.id false
  case guilds => exact c.guilds.get?_put h.guild.id h.guild
  case guildsVacant =>
    intro off
    exact Store.vacant_of_not_retains ((Store.retains_put ..).trans off)
  case channels => exact channels
  case channelsVacant =>
    intro off
    exact Store.vacant_of_not_retains ((Store.retains_putAll ..).trans off)
  -- Each list goes to a store of its own, and its entries become the guild's in one way.
  case roles => refine c.roles.files_addAll ?_ ?_ h.roles <;> exact fun _ => rfl
  case members => refine c.members.files_addAll ?_ ?_ h.members <;> exact fun _ => rfl
  case voiceStates => refine c.voiceStates.files_addAll ?_ ?_ h.voiceStates <;> exact fun _ => rfl
  case emojis => refine c.emojis.files_addAll ?_ ?_ h.emojis <;> exact fun _ => rfl
  case stickers => refine c.stickers.files_addAll ?_ ?_ h.stickers <;> exact fun _ => rfl
  case stageInstances =>
    refine c.stageInstances.files_addAll ?_ ?_ h.stageInstances <;> exact fun _ => rfl
  case scheduledEvents =>
    refine c.scheduledEvents.files_addAll ?_ ?_ h.scheduledEvents <;> exact fun _ => rfl
  case presences => refine c.presences.files_addAll ?_ ?_ h.presences <;> exact fun _ => rfl
  all_goals rfl

/--
Whatever a cache holds and whatever its stores retain, the payload of a hydration takes its place in
it and nothing else changes. In a session the stores retain the categories of the flags.
-/
theorem guildCreate_hydrates (now : Timestamp) (h : Hydration) :
    (∀ c : Cache, Hydrates h c (c.apply now (.guildCreate h)).1) ∧
    ∀ (flags : Retention) (calls : List Call),
      let c := session flags calls
      c.guilds.retains = flags.keeps .guilds ∧ c.channels.retains = flags.keeps .channels ∧
        ∀ k : Shelf, (k.store c).retains = flags.keeps k.category := by
  constructor
  · intro c
    exact hydrates_apply now c h
  · intro flags calls c
    have sound : c.Sound flags := session_sound flags calls
    exact ⟨sound.guilds.retains, sound.channels.retains, fun k => (sound.shelves k).retains⟩

/-- A thread goes before a channel with its id, and the last of two roles before the first. -/
example :
    let role (name : String) : Role := { id := 5, guildId := 0, name, permissions := ∅ }
    let thread : ThreadChannel :=
      { id := 3, guildId := 7, parentId := 2, kind := .publicThread, name := "" }
    let payload : Hydration :=
      { guild := { id := 1, name := "", ownerId := 9 }, threads := [thread]
        channels := [.text { id := 3, guildId := 1, name := "" }], roles := [role "a", role "b"] }
    let c := ((empty (.only .channels ∪ .only .roles)).apply .epoch (.guildCreate payload)).1
    c.channels.get? 3 = some (.thread { thread with guildId := 1 }) ∧
      c.roles.get? 1 5 = some { role "b" with guildId := 1 } ∧ c.roles.get? 0 5 = none ∧
      c.guilds.get? 1 = none := by decide

end Cache

end GatewayCache
