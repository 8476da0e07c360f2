import GatewayCache.Proofs.Session
import GatewayCache.Proofs.Transition

/-!
The parent ids of what is nested in an event. An event about a guild or a thread carries entities
that leave their parent's id out or misstate it; what the event does and what comes back of it does
not depend on those ids, and all that comes back is of the event's guild or thread and is what the
cache holds.
-/
namespace GatewayCache

/-! ### Events without the ids -/

/-- The hydration with no parent ids in what is nested. -/
def Hydration.unplaced (h : Hydration) : Hydration :=
  { h with
    channels := h.channels.map (Channel.inGuild 0)
    threads := h.threads.map fun t => { t with guildId := 0 }
    roles := h.roles.map fun r => { r with guildId := 0 }
    members := h.members.map fun m => { m with guildId := 0 }
    voiceStates := h.voiceStates.map fun v => { v with guildId := 0 }
    emojis := h.emojis.map fun e => { e with guildId := 0 }
    stickers := h.stickers.map fun s => { s with guildId := none }
    stageInstances := h.stageInstances.map fun s => { s with guildId := 0 }
    scheduledEvents := h.scheduledEvents.map fun e => { e with guildId := 0 }
    presences := h.presences.map fun p => { p with guildId := 0 } }

/-- The event with no parent ids in what is nested; everything else is as it was. -/
def Event.unplaced : Event → Event
  | .guildCreate h => .guildCreate h.unplaced
  | .threadCreate o =>
    .threadCreate { o with member := o.member.map fun m => { m with threadId := 0 } }
  | .threadListSync s =>
    .threadListSync { s with threads := s.threads.map fun t => { t with guildId := 0 } }
  | .threadMembersUpdate a =>
    .threadMembersUpdate { a with added := a.added.map (Cache.placeArrival 0 0) }
  | .guildRoleCreate e => .guildRoleCreate { e with role := { e.role with guildId := 0 } }
  | .guildRoleUpdate e => .guildRoleUpdate { e with role := { e.role with guildId := 0 } }
  | .guildMembersChunk e =>
    .guildMembersChunk { e with
      members := e.members.map fun m => { m with guildId := 0 }
      presences := e.presences.map fun p => { p with guildId := 0 } }
  | .guildEmojisUpdate e =>
    .guildEmojisUpdate { e with emojis := e.emojis.map fun x => { x with guildId := 0 } }
  | .guildStickersUpdate e =>
    .guildStickersUpdate { e with stickers := e.stickers.map fun x => { x with guildId := none } }
  | .voiceStateUpdate e =>
    .voiceStateUpdate { e with member := e.member.map fun m => { m with guildId := 0 } }
  | e => e

theorem Channel.inGuild_inGuild (first second : Snowflake) (ch : Channel) :
    (ch.inGuild first).inGuild second = ch.inGuild second := by
  cases ch <;> rfl

theorem Hydration.placed_unplaced (h : Hydration) : h.unplaced.placed = h.placed := by
  simp only [placed, unplaced, List.map_map, Function.comp_def, Channel.inGuild_inGuild]

theorem Cache.placeArrival_placeArrival (t g t' g' : Snowflake) (a : Arrival) :
    placeArrival t' g' (placeArrival t g a) = placeArrival t' g' a := by
  simp only [placeArrival, Option.map_map, Function.comp_def]

/-- Every handler puts the event's own id in the place of the nested ones before it uses them. -/
theorem Cache.apply_unplaced (now : Timestamp) (c : Cache) (e : Event) :
    c.apply now e.unplaced = c.apply now e := by
  cases e
  case guildCreate h => simp only [apply, Event.unplaced, hydrate, Hydration.placed_unplaced]
  case threadCreate o =>
    obtain ⟨thread, newlyCreated, member⟩ := o
    cases member <;> rfl
  case threadListSync s =>
    simp only [apply, Event.unplaced, syncThreads, addThreads, List.map_map, List.foldl_map,
      Function.comp_def]
  case threadMembersUpdate a =>
    simp only [apply, Event.unplaced, changeAttendance, List.map_map, Function.comp_def,
      placeArrival_placeArrival]
  case guildMembersChunk m =>
    simp only [apply, Event.unplaced, addChunk, List.map_map, Function.comp_def]
  case guildEmojisUpdate m =>
    simp only [apply, Event.unplaced, replaceEmojis, List.map_map, Function.comp_def]
  case guildStickersUpdate m =>
    simp only [apply, Event.unplaced, replaceStickers, List.map_map, Function.comp_def]
  case voiceStateUpdate m =>
    simp only [apply, Event.unplaced, changeVoice, Option.map_map, Function.comp_def]
  all_goals rfl

/-! ### What is nested -/

namespace Event

/-- The channels that are nested in an event, in order. -/
def nestedChannels : Event → List Channel
  | .guildCreate h => h.channels ++ h.threads.map .thread
  | .threadListSync s => s.threads.map .thread
  | _ => []

/-- What is nested in an event and goes on a shelf, in order. -/
def nested (e : Event) : (k : Shelf) → List k.Entity
  | .roles => match e with
    | .guildCreate h => h.roles
    | .guildRoleCreate r => [r.role]
    | .guildRoleUpdate r => [r.role]
    | _ => []
  | .members => match e with
    | .guildCreate h => h.members
    | .threadMembersUpdate a => a.added.map (·.member)
    | .guildMembersChunk m => m.members
    | .voiceStateUpdate v => v.member.toList
    | _ => []
  | .threadMembers => match e with
    | .threadCreate o => o.member.toList
    | .threadMembersUpdate a => a.added.map (·.threadMember)
    | _ => []
  | .presences => match e with
    | .guildCreate h => h.presences
    | .threadMembersUpdate a => a.added.filterMap (·.presence)
    | .guildMembersChunk m => m.presences
    | _ => []
  | .voiceStates => match e with
    | .guildCreate h => h.voiceStates
    | _ => []
  | .messages => []
  | .emojis => match e with
    | .guildCreate h => h.emojis
    | .guildEmojisUpdate r => r.emojis
    | _ => []
  | .stickers => match e with
    | .guildCreate h => h.stickers
    | .guildStickersUpdate r => r.stickers
    | _ => []
  | .stageInstances => match e with
    | .guildCreate h => h.stageInstances
    | _ => []
  | .scheduledEvents => match e with
    | .guildCreate h => h.scheduledEvents
    | _ => []

/-- The guild of an event that nests entities of a guild. -/
def guild? : Event → Option Snowflake
  | .guildCreate h => some h.guild.id
  | .threadListSync s => some s.guildId
  | .threadMembersUpdate a => some a.guildId
  | .guildRoleCreate r => some r.guildId
  | .guildRoleUpdate r => some r.guildId
  | .guildMembersChunk m => some m.guildId
  | .guildEmojisUpdate r => some r.guildId
  | .guildStickersUpdate r => some r.guildId
  | .voiceStateUpdate v => some v.voiceState.guildId
  | _ => none

/-- The parent of what an event nests for a shelf: its thread, for thread members, or its guild. -/
def parent? (e : Event) : Shelf → Option Snowflake
  | .threadMembers => match e with
    | .threadCreate o => some o.thread.id
    | .threadMembersUpdate a => some a.id
    | _ => none
  | _ => e.guild?

/-- The keys that an event takes off a shelf after what it nests is there. -/
def removedKeys (e : Event) : Shelf → List Snowflake
  | .threadMembers => match e with
    | .threadMembersUpdate a => a.removedIds
    | _ => []
  | _ => []

end Event

/-! ### What comes back -/

/--
What came back for the values sent is of the parent, and each value is found under its key unless a
later one has the same key or the key is removed.
-/
structure Backfilled {V : Type} (owner? : V → Option Snowflake) (key : V → Snowflake)
    (parent? : Option Snowflake) (removed : List Snowflake) (sent values : List V)
    (retains : Bool) (get? : Snowflake → Snowflake → Option V) : Prop where
  length : values.length = sent.length
  placed : ∀ front v back, values = front ++ v :: back →
    ∃ parent, parent? = some parent ∧ owner? v = some parent ∧
      (retains = true → (∀ later ∈ back, key later ≠ key v) → key v ∉ removed →
        get? parent (key v) = some v)

section Lists

variable {V : Type}

theorem Backfilled.nil {owner? : V → Option Snowflake} {key : V → Snowflake}
    {parent? : Option Snowflake} {removed : List Snowflake} {retains : Bool}
    {get? : Snowflake → Snowflake → Option V} :
    Backfilled owner? key parent? removed [] [] retains get? where
  length := rfl
  placed front v back split := by simp at split

/-- The last value with a key is the first one that is met from behind. -/
theorem findRev?_of_last {key : V → Snowflake} {front back : List V} {v : V}
    (last : ∀ later ∈ back, key later ≠ key v) :
    (front ++ v :: back).findRev? (fun w => key w == key v) = some v := by
  have behind : back.reverse.find? (fun w => key w == key v) = none := by
    rw [← List.findRev?_eq_find?_reverse]
    refine findRev?_eq_none_iff.2 fun later member => ?_
    simpa using last later member
  simp [List.findRev?_eq_find?_reverse, behind]

theorem Store.backfilled_putAll {s : Store V} {owner? : V → Option Snowflake} {key : V → Snowflake}
    {parent : Snowflake} {sent values : List V} (length : values.length = sent.length)
    (owned : ∀ v ∈ values, owner? v = some parent) :
    Backfilled owner? key (some parent) [] sent values s.retains
      fun _ => (s.putAll key values).get? where
  length := length
  placed front v back split := by
    refine ⟨parent, rfl, owned v (by simp [split]), fun on last _ => ?_⟩
    rw [get?_putAll, if_pos on, split, findRev?_of_last last, Option.some_or]

variable [Filed V]

theorem GroupedStore.backfilled_addAll {s : GroupedStore V} {parent : Snowflake}
    {sent values : List V} (length : values.length = sent.length)
    (owned : ∀ v ∈ values, Filed.owner? v = some parent) :
    Backfilled Filed.owner? Filed.key (some parent) [] sent values s.retains
      (s.addAll values).get? where
  length := length
  placed front v back split := by
    refine ⟨parent, rfl, owned v (by simp [split]), fun on last _ => ?_⟩
    rw [get?_addAll, if_pos on, lastFiled_of_owner owned, if_pos rfl, split,
      findRev?_of_last last, Option.some_or]

theorem GroupedStore.backfilled_add {s : GroupedStore V} {parent : Snowflake} {sent value : V}
    (owned : Filed.owner? value = some parent) :
    Backfilled Filed.owner? Filed.key (some parent) [] [sent] [value] s.retains
      (s.add value).get? := by
  have filed : s.add value = s.addAll [value] := rfl
  rw [filed]
  exact backfilled_addAll rfl (List.forall_mem_singleton.2 owned)

/-- Values are filed as they are made the parent's. -/
theorem GroupedStore.backfilled_map {s : GroupedStore V} {parent : Snowflake} {place : V → V}
    (owned : ∀ v, Filed.owner? (place v) = some parent) (sent : List V) :
    Backfilled Filed.owner? Filed.key (some parent) [] sent (sent.map place) s.retains
      (s.addAll (sent.map place)).get? :=
  backfilled_addAll (List.length_map _) (List.forall_mem_map.2 fun v _ => owned v)

theorem GroupedStore.backfilled_replaceGroup {s : GroupedStore V} {parent : Snowflake}
    {place : V → V} (owned : ∀ v, Filed.owner? (place v) = some parent) (sent : List V) :
    Backfilled Filed.owner? Filed.key (some parent) [] sent (sent.map place) s.retains
      (s.replaceGroup parent (sent.map place)).get? := by
  -- The stale values are taken out first, from the same store.
  have kept (stale : List Snowflake) : (s.takeAll parent stale).2.retains = s.retains := by
    rw [snd_takeAll]
    rfl
  rw [replaceGroup, ← kept]
  exact backfilled_map owned sent

/-- Values that are removed after all are the only ones that a removal takes. -/
theorem Backfilled.takeAll {s : GroupedStore V} {parent : Snowflake} {sent values : List V}
    {retains : Bool} (filled : Backfilled Filed.owner? Filed.key (some parent) [] sent values
      retains s.get?) (ids : List Snowflake) :
    Backfilled Filed.owner? Filed.key (some parent) ids sent values retains
      (s.takeAll parent ids).2.get? where
  length := filled.length
  placed front v back split := by
    obtain ⟨owner, same, owned, found⟩ := filled.placed front v back split
    refine ⟨owner, same, owned, fun on last spared => ?_⟩
    rw [GroupedStore.snd_takeAll, GroupedStore.get?_eraseIf, found on last (by simp)]
    simp [spared]

end Lists

theorem Channel.guildId_inGuild (guildId : Snowflake) (ch : Channel) :
    (ch.inGuild guildId).guildId = guildId := by
  cases ch <;> rfl

namespace Cache

variable (now : Timestamp) (c : Cache) (e : Event)

theorem backfilled_channels :
    Backfilled (fun ch => some ch.guildId) Channel.id e.guild? [] e.nestedChannels
      (c.apply now e).2.nestedChannels c.channels.retains
      fun _ => (c.apply now e).1.channels.get? := by
  rw [channels_apply]
  cases e
  case guildCreate h =>
    have placed : (c.apply now (.guildCreate h)).2.nestedChannels =
        h.placed.channels ++ h.placed.threads.map .thread := rfl
    rw [placed]
    refine Store.backfilled_putAll ?_ ?_
    · simp [Event.nestedChannels, Hydration.placed]
    · intro ch member
      rcases List.mem_append.1 member with channel | thread
      · obtain ⟨sent, -, rfl⟩ := List.mem_map.1 channel
        exact congrArg some (sent.guildId_inGuild h.guild.id)
      · obtain ⟨placed, inGuild, rfl⟩ := List.mem_map.1 thread
        obtain ⟨sent, -, rfl⟩ := List.mem_map.1 inGuild
        rfl
  case threadListSync s =>
    have placed : (c.apply now (.threadListSync s)).2.nestedChannels =
        s.threads.map fun t => .thread { t with guildId := s.guildId } := List.map_map
    rw [placed]
    refine Store.backfilled_putAll ?_ ?_
    · simp [Event.nestedChannels]
    · intro ch member
      obtain ⟨sent, -, rfl⟩ := List.mem_map.1 member
      rfl
  all_goals exact .nil

theorem backfilled_shelf (k : Shelf) :
    Backfilled Filed.owner? Filed.key (e.parent? k) (e.removedKeys k) (e.nested k)
      ((c.apply now e).2.nested k) (k.store c).retains (k.store (c.apply now e).1).get? := by
  rw [fst_apply]
  cases e
  case guildCreate h =>
    cases k
    case threadMembers => exact .nil
    case messages => exact .nil
    case roles => exact GroupedStore.backfilled_map (fun _ => rfl) h.roles
    case members => exact GroupedStore.backfilled_map (fun _ => rfl) h.members
    case presences => exact GroupedStore.backfilled_map (fun _ => rfl) h.presences
    case voiceStates => exact GroupedStore.backfilled_map (fun _ => rfl) h.voiceStates
    case emojis => exact GroupedStore.backfilled_map (fun _ => rfl) h.emojis
    case stickers => exact GroupedStore.backfilled_map (fun _ => rfl) h.stickers
    case stageInstances => exact GroupedStore.backfilled_map (fun _ => rfl) h.stageInstances
    case scheduledEvents => exact GroupedStore.backfilled_map (fun _ => rfl) h.scheduledEvents
  case threadCreate o =>
    obtain ⟨thread, newlyCreated, member⟩ := o
    cases member with
    | none => cases k <;> exact .nil
    | some m =>
      cases k
      case threadMembers => exact GroupedStore.backfilled_add rfl
      all_goals exact .nil
  case threadMembersUpdate a =>
    cases k
    case threadMembers =>
      refine Backfilled.takeAll (GroupedStore.backfilled_addAll ?_ ?_) a.removedIds
      · simp [apply, changeAttendance, Event.nested]
      · exact List.forall_mem_map.2 (List.forall_mem_map.2 fun _ _ => rfl)
    case members =>
      refine GroupedStore.backfilled_addAll ?_ ?_
      · simp [apply, changeAttendance, Event.nested]
      · exact List.forall_mem_map.2 (List.forall_mem_map.2 fun _ _ => rfl)
    case presences =>
      -- An arrival may come without a presence, and then none is placed.
      have placed : (a.added.map (placeArrival a.id a.guildId)).filterMap (·.presence) =
          (a.added.filterMap (·.presence)).map fun p => { p with guildId := a.guildId } := by
        rw [List.filterMap_map, List.map_filterMap]
        rfl
      have values : (c.apply now (.threadMembersUpdate a)).2.nested .presences =
          (a.added.map (placeArrival a.id a.guildId)).filterMap (·.presence) := rfl
      rw [values]
      dsimp only [Shelf.store, Event.onPresences]
      rw [placed]
      exact GroupedStore.backfilled_map (fun _ => rfl) _
    all_goals exact .nil
  case guildRoleCreate r =>
    cases k
    case roles => exact GroupedStore.backfilled_add rfl
    all_goals exact .nil
  case guildRoleUpdate r =>
    cases k
    case roles => exact GroupedStore.backfilled_add rfl
    all_goals exact .nil
  case guildMembersChunk m =>
    cases k
    case members => exact GroupedStore.backfilled_map (fun _ => rfl) m.members
    case presences => exact GroupedStore.backfilled_map (fun _ => rfl) m.presences
    all_goals exact .nil
  case guildEmojisUpdate r =>
    cases k
    case emojis => exact GroupedStore.backfilled_replaceGroup (fun _ => rfl) r.emojis
    all_goals exact .nil
  case guildStickersUpdate r =>
    cases k
    case stickers => exact GroupedStore.backfilled_replaceGroup (fun _ => rfl) r.stickers
    all_goals exact .nil
  case voiceStateUpdate v =>
    obtain ⟨voiceState, member, old⟩ := v
    cases member with
    | none => cases k <;> exact .nil
    | some m =>
      cases k
      case members => exact GroupedStore.backfilled_add rfl
      all_goals exact .nil
  -- The other events nest nothing.
  all_goals
    cases k
    all_goals exact .nil

/--
Whatever the cache holds, events that differ only in the parent ids of what they nest do the same
and come back the same. All that comes back is of the event's guild or thread, and the cache holds
it if it retains it at all, unless a later entry or a removal of the same event concerns its key.
-/
theorem apply_nested :
    (∀ other : Event, other.unplaced = e.unplaced → c.apply now other = c.apply now e) ∧
      Backfilled (fun ch => some ch.guildId) Channel.id e.guild? [] e.nestedChannels
        (c.apply now e).2.nestedChannels c.channels.retains
        (fun _ => (c.apply now e).1.channels.get?) ∧
      ∀ k : Shelf, Backfilled Filed.owner? Filed.key (e.parent? k) (e.removedKeys k) (e.nested k)
        ((c.apply now e).2.nested k) (k.store c).retains (k.store (c.apply now e).1).get? := by
  refine ⟨fun other same => ?_, c.backfilled_channels now e, c.backfilled_shelf now e⟩
  rw [← apply_unplaced, same, apply_unplaced]

/-- A role that names another guild, and the same role without a guild. -/
theorem apply_nested_of_misstated :
    let role : Role := { id := 5, guildId := 7, name := "", permissions := ∅ }
    let guild : Guild := { id := 1, name := "", ownerId := 9 }
    let misstated : Event := .guildCreate { guild, roles := [role] }
    let bare : Event := .guildCreate { guild, roles := [{ role with guildId := 0 }] }
    let c := Cache.empty .all
    c.apply .epoch misstated = c.apply .epoch bare ∧
      (c.apply .epoch bare).1.roles.get? 1 5 = some { role with guildId := 1 } := by
  intro role guild misstated bare c
  obtain ⟨same, -, shelves⟩ := apply_nested .epoch c bare
  obtain ⟨parent, named, -, found⟩ := (shelves .roles).placed [] _ [] rfl
  cases named
  exact ⟨same misstated rfl, found rfl (by simp) (by simp [Event.removedKeys])⟩

end Cache

end GatewayCache
