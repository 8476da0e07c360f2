import GatewayCache.Proofs.Enrichment
import GatewayCache.Proofs.GuildRemoval
import GatewayCache.Proofs.Parts

/-!
Events of different guilds. Such an event writes what is of its own guild and reads nothing else
for it, so two of them may come in either order: the cache ends up the same, and the same comes
back of both.
-/
namespace GatewayCache

/-! ### Changes at one id -/

/-- A change that writes a container at one id only, by what it reads at that id. -/
structure ActsAt {S A : Type} (view : S → Snowflake → A) (g : Snowflake) (f : S → S) : Prop where
  frame : ∀ s k, k ≠ g → view (f s) k = view s k
  congr : ∀ s t, view s g = view t g → view (f s) g = view (f t) g

namespace ActsAt

variable {S A B : Type} {view : S → Snowflake → A} {g h : Snowflake} {f f' : S → S}

protected theorem id : ActsAt view g id := ⟨fun _ _ _ => rfl, fun _ _ same => same⟩

theorem comp (first : ActsAt view g f) (second : ActsAt view g f') :
    ActsAt view g fun s => f' (f s) where
  frame s k other := (second.frame (f s) k other).trans (first.frame s k other)
  congr s t same := second.congr (f s) (f t) (first.congr s t same)

theorem foldl {step : S → B → S} (each : ∀ b, ActsAt view g fun s => step s b) (l : List B) :
    ActsAt view g fun s => l.foldl step s := by
  induction l with
  | nil => exact .id
  | cons b l ih => exact (each b).comp ih

theorem ite (p : Prop) [Decidable p] (yes : ActsAt view g f) (no : ActsAt view g f') :
    ActsAt view g fun s => if p then f s else f' s := by
  by_cases holds : p
  · simpa only [if_pos holds] using yes
  · simpa only [if_neg holds] using no

/-- What to do may itself depend on what is found at the id. -/
theorem reading (read : A → B) (act : B → S → S) (each : ∀ b, ActsAt view g (act b)) :
    ActsAt view g fun s => act (read (view s g)) s where
  frame s k other := (each _).frame s k other
  congr s t same := by
    rw [same]
    exact (each _).congr s t same

theorem comm (ext : ∀ s t, (∀ k, view s k = view t k) → s = t) (first : ActsAt view g f)
    (second : ActsAt view h f') (other : g ≠ h) (s : S) : f' (f s) = f (f' s) := by
  refine ext _ _ fun k => ?_
  -- At its own id a change reads the same before the other change and after it.
  by_cases atFirst : k = g
  · subst atFirst
    calc view (f' (f s)) k
        = view (f s) k := second.frame (f s) k other
      _ = view (f (f' s)) k := (first.congr (f' s) s (second.frame s k other)).symm
  · by_cases atSecond : k = h
    · subst atSecond
      calc view (f' (f s)) k
          = view (f' s) k := second.congr (f s) s (first.frame s k atFirst)
        _ = view (f (f' s)) k := (first.frame (f' s) k atFirst).symm
    · rw [second.frame (f s) k atSecond, first.frame s k atFirst, first.frame (f' s) k atFirst,
        second.frame s k atSecond]

end ActsAt

theorem IdSet.actsAt_set (id : Snowflake) (present : Bool) :
    ActsAt IdSet.contains id fun s => s.set id present where
  frame s k other := by rw [contains_set, if_neg other]
  congr s t same := by rw [contains_set, contains_set, if_pos rfl, if_pos rfl]

/-! ### Stores id by id -/

namespace Store

variable {V : Type}

/-- A store as it is seen at an id. -/
def view (s : Store V) (id : Snowflake) : Bool × Option V := (s.retains, s.get? id)

theorem ext_view (s t : Store V) (same : ∀ id, s.view id = t.view id) : s = t := by
  refine ext_get? ?_ fun id => ?_
  · exact congrArg Prod.fst (same 0)
  · exact congrArg Prod.snd (same id)

/-- A change of a store is at an id if the lookups show it there only. -/
theorem actsAt_of_get? {id : Snowflake} {f : Store V → Store V}
    (retains : ∀ s, (f s).retains = s.retains) (new : Bool → Option V → Option V)
    (get? : ∀ s k, (f s).get? k = if k = id then new s.retains (s.get? k) else s.get? k) :
    ActsAt view id f where
  frame s k other := by rw [view, view, retains, get?, if_neg other]
  congr s t same := by
    obtain ⟨sameRetains, sameGet⟩ := Prod.mk.inj same
    rw [view, view, retains, retains, get?, get?, sameRetains, sameGet]

theorem actsAt_erase (id : Snowflake) : ActsAt view id fun s : Store V => s.erase id :=
  actsAt_of_get? (fun s => s.retains_erase id) (fun _ _ => none) fun s k => s.get?_erase id k

theorem actsAt_modify (id : Snowflake) (f : V → V) :
    ActsAt view id fun s : Store V => s.modify id f :=
  actsAt_of_get? (fun s => s.retains_modify id f) (fun _ old => old.map f)
    fun s k => s.get?_modify id f k

theorem actsAt_put (id : Snowflake) (value : V) :
    ActsAt view id fun s : Store V => s.put id value := by
  refine actsAt_of_get? (fun s => s.retains_put id value)
    (fun on old => if on then some value else old) fun s k => ?_
  rw [get?_put]
  by_cases here : k = id <;> simp [here]

end Store

namespace GroupedStore

variable {V : Type}

/-- A store as it is seen at a group. -/
def view (s : GroupedStore V) (g : Snowflake) : Bool × IdMap V := (s.retains, s.group g)

theorem ext_view (s t : GroupedStore V) (same : ∀ g, s.view g = t.view g) : s = t := by
  refine ext_get? ?_ fun g id => ?_
  · exact congrArg Prod.fst (same 0)
  · exact congrArg (fun seen => seen.2.get? id) (same g)

/-- New content for a group that depends on what the group has. -/
theorem actsAt_setGroup (g : Snowflake) (new : IdMap V → IdMap V) :
    ActsAt view g fun s : GroupedStore V => s.setGroup g (new (s.group g)) where
  frame s k other := by
    rw [view, view, retains_setGroup, group_setGroup, if_neg fun here => other here.2]
  congr s t same := by
    obtain ⟨sameRetains, sameGroup⟩ := Prod.mk.inj same
    rw [view, view, retains_setGroup, retains_setGroup, group_setGroup, group_setGroup,
      sameRetains, sameGroup]

theorem actsAt_erase (g id : Snowflake) : ActsAt view g fun s : GroupedStore V => s.erase g id :=
  actsAt_setGroup g (·.erase id)

theorem actsAt_modify (g id : Snowflake) (f : V → V) :
    ActsAt view g fun s : GroupedStore V => s.modify g id f :=
  actsAt_setGroup g (·.modify id f)

theorem actsAt_eraseGroup (g : Snowflake) :
    ActsAt view g fun s : GroupedStore V => s.eraseGroup g :=
  actsAt_setGroup g fun _ => ∅

theorem actsAt_takeAll (g : Snowflake) (ids : List Snowflake) :
    ActsAt view g fun s : GroupedStore V => (s.takeAll g ids).2 := by
  induction ids with
  | nil => exact .id
  | cons id ids ih => exact (actsAt_erase g id).comp ih

theorem actsAt_stripRole (g roleId : Snowflake) :
    ActsAt view g fun s : GroupedStore Member => s.stripRole g roleId := by
  -- Who loses the role is read off the group.
  let holders (seen : Bool × IdMap Member) : List Snowflake :=
    (seen.2.values.filter (·.roles.contains roleId)).map (·.userId)
  refine ActsAt.reading holders
    (fun ids (s : GroupedStore Member) =>
      ids.foldl (fun s id => s.modify g id (·.withoutRole roleId)) s) fun ids => ?_
  exact ActsAt.foldl (fun id => actsAt_modify g id (Member.withoutRole · roleId)) ids

variable [Filed V]

theorem actsAt_add (v : V) {g : Snowflake} (owned : Filed.owner? v = some g) :
    ActsAt view g fun s : GroupedStore V => s.add v := by
  simp only [add, owned]
  exact actsAt_setGroup g (·.insert (Filed.key v) v)

theorem actsAt_addAll {g : Snowflake} {values : List V}
    (owned : ∀ v ∈ values, Filed.owner? v = some g) :
    ActsAt view g fun s : GroupedStore V => s.addAll values := by
  induction values with
  | nil => exact .id
  | cons v values ih =>
    have rest := ih fun w member => owned w (List.mem_cons_of_mem v member)
    exact (actsAt_add v (owned v List.mem_cons_self)).comp rest

theorem actsAt_replaceGroup {g : Snowflake} {values : List V}
    (owned : ∀ v ∈ values, Filed.owner? v = some g) :
    ActsAt view g fun s : GroupedStore V => s.replaceGroup g values := by
  -- What is stale is read off the group, and removed before the new values are filed.
  let stale (seen : Bool × IdMap V) : List Snowflake :=
    (seen.2.values.map Filed.key).filter fun id => !(values.any (Filed.key · == id))
  refine ActsAt.reading stale
    (fun ids (s : GroupedStore V) => (s.takeAll g ids).2.addAll values) fun ids => ?_
  exact (actsAt_takeAll g ids).comp (actsAt_addAll owned)

end GroupedStore

/-! ### Events of one guild -/

namespace Event

/-- The guild of an event that is about one guild as it is known already. -/
def guildScope? : Event → Option Snowflake
  | .guildUpdate e => some e.current.id
  | .guildDelete e => some e.id
  | .guildRoleCreate e => some e.guildId
  | .guildRoleUpdate e => some e.guildId
  | .guildRoleDelete e => some e.guildId
  | .guildScheduledEventCreate e => some e.guildId
  | .guildScheduledEventUpdate e => some e.current.guildId
  | .guildScheduledEventDelete e => some e.current.guildId
  | .stageInstanceCreate e => some e.guildId
  | .stageInstanceUpdate e => some e.current.guildId
  | .stageInstanceDelete e => some e.current.guildId
  | .guildMemberAdd e => some e.guildId
  | .guildMemberUpdate e => some e.current.guildId
  | .guildMemberRemove e => some e.guildId
  | .guildMembersChunk e => some e.guildId
  | .guildEmojisUpdate e => some e.guildId
  | .guildStickersUpdate e => some e.guildId
  | .presenceUpdate e => some e.current.guildId
  | .voiceStateUpdate e => some e.voiceState.guildId
  | _ => none

/-- Whether the event takes a guild away. -/
def endsGuild : Event → Bool
  | .guildDelete _ => true
  | _ => false

variable {e : Event} {g : Snowflake}

theorem onSelf_scoped (scope : e.guildScope? = some g) (me : Option SelfUser) :
    e.onSelf me = me := by
  cases e <;> cases scope <;> rfl

theorem actsAt_onUnready (scope : e.guildScope? = some g) :
    ActsAt IdSet.contains g e.onUnready := by
  cases e <;> cases scope
  case guildDelete r =>
    -- In an outage the guild still waits for its hydration if it did before.
    exact .ite _ .id (IdSet.actsAt_set r.id false)
  all_goals exact .id

theorem actsAt_onUnavailable (scope : e.guildScope? = some g) :
    ActsAt IdSet.contains g e.onUnavailable := by
  cases e <;> cases scope
  case guildDelete r => exact IdSet.actsAt_set r.id r.unavailable
  all_goals exact .id

theorem actsAt_onGuilds (scope : e.guildScope? = some g) :
    ActsAt Store.view g e.onGuilds := by
  cases e <;> cases scope
  case guildUpdate e =>
    have stored (s : Store Guild) : (Event.guildUpdate e).onGuilds s =
        s.put e.current.id (Cache.changedGuild (s.get? e.current.id) e.current) := by
      simp only [onGuilds, Cache.changedGuild_id]
    rw [funext stored]
    exact ActsAt.reading (fun seen : Bool × Option Guild => Cache.changedGuild seen.2 e.current)
      (fun guild (s : Store Guild) => s.put e.current.id guild) (Store.actsAt_put e.current.id)
  case guildDelete r => exact Store.actsAt_erase r.id
  case guildMemberAdd m => exact Store.actsAt_modify m.guildId _
  case guildMemberRemove e => exact Store.actsAt_modify e.guildId _
  all_goals exact .id

open GroupedStore

theorem actsAt_onRoles (scope : e.guildScope? = some g) : ActsAt view g e.onRoles := by
  cases e <;> cases scope
  case guildDelete r => exact actsAt_eraseGroup r.id
  case guildRoleCreate e => exact actsAt_add { e.role with guildId := e.guildId } rfl
  case guildRoleUpdate e => exact actsAt_add { e.role with guildId := e.guildId } rfl
  case guildRoleDelete e => exact actsAt_erase e.guildId e.roleId
  all_goals exact .id

theorem actsAt_onMembers (scope : e.guildScope? = some g) : ActsAt view g e.onMembers := by
  cases e <;> cases scope
  case guildDelete r => exact actsAt_eraseGroup r.id
  case guildRoleDelete e => exact actsAt_stripRole e.guildId e.roleId
  case guildMemberAdd m => exact actsAt_add m rfl
  case guildMemberUpdate e => exact actsAt_add e.current rfl
  case guildMemberRemove e => exact actsAt_erase e.guildId e.user.id
  case guildMembersChunk e => exact actsAt_addAll (List.forall_mem_map.2 fun _ _ => rfl)
  case voiceStateUpdate e =>
    refine actsAt_addAll ?_
    -- A member that comes with a voice state is one of the same guild.
    cases e.member <;> simp [Filed.owner?]
  all_goals exact .id

theorem actsAt_onPresences (scope : e.guildScope? = some g) : ActsAt view g e.onPresences := by
  cases e <;> cases scope
  case guildDelete r => exact actsAt_eraseGroup r.id
  case guildMembersChunk e => exact actsAt_addAll (List.forall_mem_map.2 fun _ _ => rfl)
  case presenceUpdate e => exact actsAt_add e.current rfl
  all_goals exact .id

theorem actsAt_onVoiceStates (scope : e.guildScope? = some g) :
    ActsAt view g e.onVoiceStates := by
  cases e <;> cases scope
  case guildDelete r => exact actsAt_eraseGroup r.id
  case voiceStateUpdate e =>
    exact .ite _ (actsAt_add e.voiceState rfl)
      (actsAt_erase e.voiceState.guildId e.voiceState.userId)
  all_goals exact .id

theorem actsAt_onEmojis (scope : e.guildScope? = some g) : ActsAt view g e.onEmojis := by
  cases e <;> cases scope
  case guildDelete r => exact actsAt_eraseGroup r.id
  case guildEmojisUpdate e => exact actsAt_replaceGroup (List.forall_mem_map.2 fun _ _ => rfl)
  all_goals exact .id

theorem actsAt_onStickers (scope : e.guildScope? = some g) : ActsAt view g e.onStickers := by
  cases e <;> cases scope
  case guildDelete r => exact actsAt_eraseGroup r.id
  case guildStickersUpdate e => exact actsAt_replaceGroup (List.forall_mem_map.2 fun _ _ => rfl)
  all_goals exact .id

theorem actsAt_onStageInstances (scope : e.guildScope? = some g) :
    ActsAt view g e.onStageInstances := by
  cases e <;> cases scope
  case guildDelete r => exact actsAt_eraseGroup r.id
  case stageInstanceCreate s => exact actsAt_add s rfl
  case stageInstanceUpdate e => exact actsAt_add e.current rfl
  case stageInstanceDelete e => exact actsAt_erase e.current.guildId e.current.id
  all_goals exact .id

theorem actsAt_onScheduledEvents (scope : e.guildScope? = some g) :
    ActsAt view g e.onScheduledEvents := by
  cases e <;> cases scope
  case guildDelete r => exact actsAt_eraseGroup r.id
  case guildScheduledEventCreate s => exact actsAt_add s rfl
  case guildScheduledEventUpdate e => exact actsAt_add e.current rfl
  case guildScheduledEventDelete e => exact actsAt_erase e.current.guildId e.current.id
  all_goals exact .id

/-- An event of a guild acts on every shelf at that guild's group. -/
theorem actsAt_onShelf (scope : e.guildScope? = some g) (k : Shelf) :
    ActsAt view g (e.onShelf k) := by
  cases k with
  | roles => exact actsAt_onRoles scope
  | members => exact actsAt_onMembers scope
  | presences => exact actsAt_onPresences scope
  | voiceStates => exact actsAt_onVoiceStates scope
  | emojis => exact actsAt_onEmojis scope
  | stickers => exact actsAt_onStickers scope
  | stageInstances => exact actsAt_onStageInstances scope
  | scheduledEvents => exact actsAt_onScheduledEvents scope
  | threadMembers => exact .id
  | messages => exact .id

end Event

/-! ### Channels, thread members and messages -/

theorem Store.eraseIf_comm {V : Type} (s : Store V) (first second : Snowflake → V → Bool) :
    (s.eraseIf first).eraseIf second = (s.eraseIf second).eraseIf first := by
  simp only [eraseIf_eraseIf, Bool.or_comm]

theorem GroupedStore.eraseIf_comm {V : Type} (s : GroupedStore V)
    (first second : Snowflake → Snowflake → V → Bool) :
    (s.eraseIf first).eraseIf second = (s.eraseIf second).eraseIf first := by
  simp only [eraseIf_eraseIf, Bool.or_comm]

namespace Cache

variable {flags : Retention} {c : Cache} {e e₁ e₂ : Event} {g g₁ g₂ : Snowflake}

/-- Of the three shared parts an event of a guild at most removes what is of that guild. -/
theorem Sound.channelsAfter_scoped (sound : c.Sound flags) (scope : e.guildScope? = some g)
    (now : Timestamp) :
    c.channelsAfter now e = c.channels.eraseIf fun _ ch => e.endsGuild && ch.guildId == g := by
  cases e <;> cases scope
  case guildDelete r => exact sound.channels.snd_takeGuild r.id
  all_goals exact c.channels.eraseIf_of_keeps.symm

theorem threadMembersAfter_scoped (scope : e.guildScope? = some g) (now : Timestamp) :
    c.threadMembersAfter now e =
      c.threadMembers.eraseIf fun t _ _ => e.endsGuild && (c.guildThreadIds g).contains t := by
  cases e <;> cases scope
  case guildDelete r => rfl
  all_goals exact c.threadMembers.eraseIf_of_keeps.symm

theorem messagesAfter_scoped (scope : e.guildScope? = some g) (now : Timestamp) :
    c.messagesAfter now e = c.messages.eraseIf fun ch _ m =>
      e.endsGuild && ((c.guildChannelIds g).contains ch || m.guildId == some g) := by
  cases e <;> cases scope
  case guildDelete r => rfl
  all_goals exact c.messages.eraseIf_of_keeps.symm

/-- An event of one guild leaves the channels of another. -/
theorem Sound.get?_channels_other (sound : c.Sound flags) (scope : e.guildScope? = some g)
    (now : Timestamp) {h : Snowflake} (other : h ≠ g) (id : Snowflake) (ch : Channel) :
    ((c.apply now e).1.channels.get? id = some ch ∧ ch.guildId = h) ↔
      (c.channels.get? id = some ch ∧ ch.guildId = h) := by
  have after : (c.apply now e).1.channels =
      c.channels.eraseIf fun _ ch => e.endsGuild && ch.guildId == g := by
    rw [fst_apply]
    exact sound.channelsAfter_scoped scope now
  rw [after, Store.get?_eraseIf, Option.filter_eq_some_iff]
  constructor
  · rintro ⟨⟨found, -⟩, own⟩
    exact ⟨found, own⟩
  · rintro ⟨found, rfl⟩
    -- What the event removes is of its own guild, and that is another one.
    exact ⟨⟨found, by simp [other]⟩, rfl⟩

theorem Sound.contains_guildThreadIds (sound : c.Sound flags) (scope : e.guildScope? = some g)
    (now : Timestamp) {h : Snowflake} (other : h ≠ g) (id : Snowflake) :
    ((c.apply now e).1.guildThreadIds h).contains id = (c.guildThreadIds h).contains id := by
  have threads (t : ThreadChannel) :
      ((c.apply now e).1.channels.get? id = some (.thread t) ∧ t.guildId = h) ↔
        (c.channels.get? id = some (.thread t) ∧ t.guildId = h) :=
    sound.get?_channels_other scope now other id (.thread t)
  rw [Bool.eq_iff_iff, List.contains_iff_mem, List.contains_iff_mem,
    (sound.apply now e).mem_guildThreadIds, sound.mem_guildThreadIds]
  simp only [threads]

theorem Sound.contains_guildChannelIds (sound : c.Sound flags) (scope : e.guildScope? = some g)
    (now : Timestamp) {h : Snowflake} (other : h ≠ g) (id : Snowflake) :
    ((c.apply now e).1.guildChannelIds h).contains id = (c.guildChannelIds h).contains id := by
  rw [Bool.eq_iff_iff, List.contains_iff_mem, List.contains_iff_mem,
    (sound.apply now e).mem_guildChannelIds, sound.mem_guildChannelIds]
  simp only [sound.get?_channels_other scope now other id]

section TwoEvents

variable (sound : c.Sound flags) (scope₁ : e₁.guildScope? = some g₁)
  (scope₂ : e₂.guildScope? = some g₂) (other : g₁ ≠ g₂) (t₁ t₂ : Timestamp)
include sound scope₁ scope₂

/-- After two events the channels of the guilds that they end are gone, whichever came first. -/
theorem Sound.channels_apply₂ : ((c.apply t₁ e₁).1.apply t₂ e₂).1.channels =
    (c.channels.eraseIf fun _ ch => e₁.endsGuild && ch.guildId == g₁).eraseIf
      fun _ ch => e₂.endsGuild && ch.guildId == g₂ := by
  have first := sound.channelsAfter_scoped scope₁ t₁
  have second := (sound.apply t₁ e₁).channelsAfter_scoped scope₂ t₂
  rw [fst_apply t₂]
  refine second.trans ?_
  rw [fst_apply t₁, first]

include other

theorem Sound.threadMembers_apply₂ : ((c.apply t₁ e₁).1.apply t₂ e₂).1.threadMembers =
    (c.threadMembers.eraseIf
        fun t _ _ => e₁.endsGuild && (c.guildThreadIds g₁).contains t).eraseIf
      fun t _ _ => e₂.endsGuild && (c.guildThreadIds g₂).contains t := by
  have first := c.threadMembersAfter_scoped scope₁ t₁
  have second := (c.apply t₁ e₁).1.threadMembersAfter_scoped scope₂ t₂
  -- The second event finds the threads of its guild as they were before the first.
  simp only [sound.contains_guildThreadIds scope₁ t₁ other.symm] at second
  rw [fst_apply t₂]
  refine second.trans ?_
  rw [fst_apply t₁, first]

theorem Sound.messages_apply₂ : ((c.apply t₁ e₁).1.apply t₂ e₂).1.messages =
    (c.messages.eraseIf fun ch _ m =>
        e₁.endsGuild && ((c.guildChannelIds g₁).contains ch || m.guildId == some g₁)).eraseIf
      fun ch _ m =>
        e₂.endsGuild && ((c.guildChannelIds g₂).contains ch || m.guildId == some g₂) := by
  have first := c.messagesAfter_scoped scope₁ t₁
  have second := (c.apply t₁ e₁).1.messagesAfter_scoped scope₂ t₂
  simp only [sound.contains_guildChannelIds scope₁ t₁ other.symm] at second
  rw [fst_apply t₂]
  refine second.trans ?_
  rw [fst_apply t₁, first]

end TwoEvents

/-! ### What comes back -/

/-- Two caches hold the same of a guild, its channels and what is in them left aside. -/
structure AgreeOn (g : Snowflake) (c c' : Cache) : Prop where
  guild : c.guilds.get? g = c'.guilds.get? g
  groups : ∀ k : Shelf, k ≠ .threadMembers → k ≠ .messages →
    (k.store c).group g = (k.store c').group g

/-- What an event of a guild displaces is of that guild. -/
theorem enriched_of_agreeOn {c c' : Cache} (scope : e.guildScope? = some g)
    (agree : AgreeOn g c c') : c.enriched e = c'.enriched e := by
  have roles : c.roles.group g = c'.roles.group g := agree.groups .roles nofun nofun
  have members : c.members.group g = c'.members.group g := agree.groups .members nofun nofun
  have presences : c.presences.group g = c'.presences.group g :=
    agree.groups .presences nofun nofun
  have voiceStates : c.voiceStates.group g = c'.voiceStates.group g :=
    agree.groups .voiceStates nofun nofun
  have emojis : c.emojis.group g = c'.emojis.group g := agree.groups .emojis nofun nofun
  have stickers : c.stickers.group g = c'.stickers.group g := agree.groups .stickers nofun nofun
  have stageInstances : c.stageInstances.group g = c'.stageInstances.group g :=
    agree.groups .stageInstances nofun nofun
  have scheduledEvents : c.scheduledEvents.group g = c'.scheduledEvents.group g :=
    agree.groups .scheduledEvents nofun nofun
  cases e <;> cases scope <;>
    simp only [enriched, GroupedStore.get?, GroupedStore.groupValues, agree.guild, roles, members,
      presences, voiceStates, emojis, stickers, stageInstances, scheduledEvents]

/-- An event of another guild leaves all that is of a guild. -/
theorem agreeOn_apply (c : Cache) (scope : e.guildScope? = some g) (now : Timestamp)
    {h : Snowflake} (other : h ≠ g) : AgreeOn h c (c.apply now e).1 where
  guild := by
    rw [fst_apply]
    exact congrArg Prod.snd ((Event.actsAt_onGuilds scope).frame c.guilds h other).symm
  groups k notThreads notMessages := by
    rw [store_apply now c e notThreads notMessages]
    exact congrArg Prod.snd ((Event.actsAt_onShelf scope k).frame (k.store c) h other).symm

theorem Sound.snd_apply_other (sound : c.Sound flags) (scope₁ : e₁.guildScope? = some g₁)
    (scope₂ : e₂.guildScope? = some g₂) (other : g₁ ≠ g₂) (t₁ t₂ t₃ : Timestamp) :
    ((c.apply t₁ e₁).1.apply t₂ e₂).2 = (c.apply t₃ e₂).2 := by
  have agree : AgreeOn g₂ c (c.apply t₁ e₁).1 := c.agreeOn_apply scope₁ t₁ other.symm
  -- What comes back is the event with what it displaces, and it displaces the same in both.
  rw [(sound.apply t₁ e₁).snd_apply, sound.snd_apply]
  exact (enriched_of_agreeOn scope₂ agree).symm

/-! ### Either order -/

theorem Sound.fst_apply_comm (sound : c.Sound flags) (scope₁ : e₁.guildScope? = some g₁)
    (scope₂ : e₂.guildScope? = some g₂) (other : g₁ ≠ g₂) (t₁ t₂ t₃ t₄ : Timestamp) :
    ((c.apply t₁ e₁).1.apply t₂ e₂).1 = ((c.apply t₃ e₂).1.apply t₄ e₁).1 := by
  apply ext_parts
  case retention => simp only [fst_apply]
  case selfUser =>
    simp only [fst_apply, Event.onSelf_scoped scope₁, Event.onSelf_scoped scope₂]
  case unready =>
    simp only [fst_apply]
    exact (Event.actsAt_onUnready scope₁).comm (fun _ _ => IdSet.ext_contains)
      (Event.actsAt_onUnready scope₂) other c.unready
  case unavailable =>
    simp only [fst_apply]
    exact (Event.actsAt_onUnavailable scope₁).comm (fun _ _ => IdSet.ext_contains)
      (Event.actsAt_onUnavailable scope₂) other c.unavailable
  case guilds =>
    simp only [fst_apply]
    exact (Event.actsAt_onGuilds scope₁).comm Store.ext_view (Event.actsAt_onGuilds scope₂) other
      c.guilds
  case channels =>
    rw [sound.channels_apply₂ scope₁ scope₂, sound.channels_apply₂ scope₂ scope₁]
    exact Store.eraseIf_comm ..
  case shelves =>
    intro k
    -- Two shelves lose entries by the guild of a channel; all others are changed group by group.
    by_cases threads : k = .threadMembers
    · subst threads
      have left := sound.threadMembers_apply₂ scope₁ scope₂ other t₁ t₂
      have right := sound.threadMembers_apply₂ scope₂ scope₁ other.symm t₃ t₄
      exact left.trans ((GroupedStore.eraseIf_comm ..).trans right.symm)
    · by_cases messages : k = .messages
      · subst messages
        have left := sound.messages_apply₂ scope₁ scope₂ other t₁ t₂
        have right := sound.messages_apply₂ scope₂ scope₁ other.symm t₃ t₄
        exact left.trans ((GroupedStore.eraseIf_comm ..).trans right.symm)
      · simp only [store_apply _ _ _ threads messages]
        exact (Event.actsAt_onShelf scope₁ k).comm GroupedStore.ext_view
          (Event.actsAt_onShelf scope₂ k) other (k.store c)

/--
After any session two events about different guilds may come in either order, at whatever times:
the cache is the same in the end, and either event comes back the same. Removed emojis and stickers
are listed by their ids, so equal lists are equal sets.
-/
theorem guildEvents_commute (flags : Retention) (calls : List Call) (e₁ e₂ : Event)
    (g₁ g₂ : Snowflake) (scope₁ : e₁.guildScope? = some g₁) (scope₂ : e₂.guildScope? = some g₂)
    (other : g₁ ≠ g₂) (t₁ t₂ t₃ t₄ : Timestamp) :
    let c := session flags calls
    let first := c.apply t₁ e₁
    let second := first.1.apply t₂ e₂
    let first' := c.apply t₃ e₂
    let second' := first'.1.apply t₄ e₁
    second.1 = second'.1 ∧ first.2 = second'.2 ∧ second.2 = first'.2 := by
  intro c first second first' second'
  have sound : c.Sound flags := session_sound flags calls
  refine ⟨?_, ?_, ?_⟩
  · exact sound.fst_apply_comm scope₁ scope₂ other t₁ t₂ t₃ t₄
  -- Either event comes back as it does with no other before it.
  · exact (sound.snd_apply_other scope₂ scope₁ other.symm t₃ t₄ t₁).symm
  · exact sound.snd_apply_other scope₁ scope₂ other t₁ t₂ t₃

/-- Two guilds with a thread and a message each; one goes for good and the other in an outage. -/
theorem guildEvents_commute_deletions :
    let thread (id : Snowflake) : ThreadChannel :=
      { id, guildId := 0, parentId := 9, kind := .publicThread, name := "" }
    let guild (id : Snowflake) : Hydration :=
      { guild := { id, name := "", ownerId := 9 }, threads := [thread (id + 2)] }
    let message (id : Snowflake) : Message :=
      { id, channelId := id, author := { id := 9, username := "" }, content := ""
        timestamp := .epoch }
    let calls : List Call := [
      .handle .epoch (.guildCreate (guild 1)), .handle .epoch (.guildCreate (guild 2)),
      .handle .epoch (.messageCreate (message 3)), .handle .epoch (.messageCreate (message 4))]
    let c := session .all calls
    let e₁ := Event.guildDelete ⟨1, false, none⟩
    let e₂ := Event.guildDelete ⟨2, true, none⟩
    let first := c.apply .epoch e₁
    let first' := c.apply .epoch e₂
    e₁.guildScope? = some 1 ∧ e₂.guildScope? = some 2 ∧
      (first.1.apply .epoch e₂).1 = (first'.1.apply .epoch e₁).1 ∧
      first.2 = (first'.1.apply .epoch e₁).2 ∧ (first.1.apply .epoch e₂).2 = first'.2 := by
  intro thread guild message calls c e₁ e₂ first first'
  have scope₁ : e₁.guildScope? = some 1 := rfl
  have scope₂ : e₂.guildScope? = some 2 := rfl
  have either := guildEvents_commute .all calls e₁ e₂ 1 2 scope₁ scope₂ (by decide) .epoch .epoch
    .epoch .epoch
  exact ⟨scope₁, scope₂, either⟩

end Cache

end GatewayCache
