import GatewayCache.Proofs.ChannelLookup
import GatewayCache.Proofs.GuildRemoval
import GatewayCache.Proofs.LastWrite
import GatewayCache.Proofs.Parts

/-!
The same event twice in a row. What an event writes, deletes or evicts is settled the first time,
so the second time only counts change: who joins or leaves counts again, and so do messages.
-/
namespace GatewayCache

/-! ### What counts again -/

namespace Event

/-- Counts the member of an event, and does nothing else. -/
def recountMembers : Event → Store Guild → Store Guild
  | .guildMemberAdd m, s =>
    s.modify m.guildId fun g => { g with memberCount := countUp g.memberCount }
  | .guildMemberRemove e, s =>
    s.modify e.guildId fun g => { g with memberCount := countDown 1 g.memberCount }
  | _, s => s

/-- Counts the messages of an event in their thread, and does nothing else. -/
def recountMessages : Event → Store Channel → Store Channel
  | .messageCreate m, s => s.modify m.channelId (.mapThread .messageSent)
  | .messageDelete r, s => s.modify r.channelId (.mapThread (.messagesDeleted 1))
  | .messageDeleteBulk r, s =>
    s.modify r.channelId (.mapThread (.messagesDeleted r.ids.length))
  | _, s => s

/-- The channel whose messages are counted. -/
def countedChannel? : Event → Option Snowflake
  | .messageCreate m => some m.channelId
  | .messageDelete r => some r.channelId
  | .messageDeleteBulk r => some r.channelId
  | _ => none

end Event

/-! ### Parts that change by themselves -/

theorem Fate.on_on {V : Type} (fate : Fate V) (old : Option V) :
    fate.on (fate.on old) = fate.on old := by
  cases fate <;> rfl

theorem IdSet.set_set (s : IdSet) (id : Snowflake) (present : Bool) :
    (s.set id present).set id present = s.set id present := by
  refine set_eq_self ?_
  simp [changes, contains_set]

/-- A change that settles what becomes of each entry says the same the second time. -/
theorem GroupedStore.Sound.idem {V : Type} [Filed V] {on : Bool}
    {f : GroupedStore V → GroupedStore V} (new : Snowflake → Snowflake → Option V → Option V)
    (settled : ∀ g id old, new g id (new g id old) = new g id old)
    (keeps : ∀ {s}, s.Sound on → (f s).Sound on)
    (get? : ∀ {s g id}, s.Sound true → (f s).get? g id = new g id (s.get? g id))
    {s : GroupedStore V} (sound : s.Sound on) : f (f s) = f s := by
  have once := keeps sound
  have twice := keeps once
  refine ext_get? (twice.retains.trans once.retains.symm) fun g id => ?_
  cases on with
  | false => rw [get?_of_not_retains twice.retains, get?_of_not_retains once.retains]
  | true => rw [get? once, get? sound, settled]

theorem Cache.changedGuild_changedGuild (old : Option Guild) (new : Guild) :
    changedGuild (some (changedGuild old new)) new = changedGuild old new := by
  obtain ⟨id, name, ownerId, icon, description, memberCount, joinedAt, large⟩ := new
  cases old <;> cases joinedAt <;> rfl

namespace Event

variable {on : Bool} (e : Event)

theorem onSelf_idem (me : Option SelfUser) : e.onSelf (e.onSelf me) = e.onSelf me := by
  cases e <;> rfl

theorem onUnready_idem (s : IdSet) : e.onUnready (e.onUnready s) = e.onUnready s := by
  cases e
  case ready r =>
    refine IdSet.ext_contains fun id => ?_
    simp only [onUnready, Cache.contains_foldl_set, ← Bool.or_assoc, Bool.or_self]
  case guildCreate h => exact s.set_set h.guild.id false
  case guildDelete r =>
    obtain ⟨id, unavailable, _⟩ := r
    cases unavailable with
    | true => rfl
    | false => exact s.set_set id false
  all_goals rfl

theorem onUnavailable_idem (s : IdSet) :
    e.onUnavailable (e.onUnavailable s) = e.onUnavailable s := by
  cases e
  case guildCreate h => exact s.set_set h.guild.id false
  case guildDelete r => exact s.set_set r.id r.unavailable
  all_goals rfl

theorem onGuilds_onGuilds (s : Store Guild) :
    e.onGuilds (e.onGuilds s) = e.recountMembers (e.onGuilds s) := by
  cases e
  case guildCreate h => exact s.put_put h.guild.id h.guild
  case guildUpdate u =>
    -- The second time the guild is merged with what the merger with the old one made of it.
    simp only [onGuilds, recountMembers, Cache.changedGuild_id]
    rw [Store.get?_put]
    cases on : s.retains with
    | false => simp [Store.put, on]
    | true =>
      rw [if_pos ⟨rfl, rfl⟩, Cache.changedGuild_changedGuild, Store.put_put]
  case guildDelete r => exact s.erase_erase r.id
  all_goals rfl

theorem editMember_idem (g : Snowflake) (m : Member) :
    e.editMember g (e.editMember g m) = e.editMember g m := by
  cases e
  case guildRoleDelete e =>
    by_cases here : e.guildId = g
    · simp only [editMember, if_pos here, Member.withoutRole_withoutRole]
    · simp only [editMember, if_neg here]
  all_goals rfl

theorem onEmojis_idem {s : GroupedStore Emoji} (sound : s.Sound on) :
    e.onEmojis (e.onEmojis s) = e.onEmojis s := by
  cases e
  case guildCreate h => exact s.addAll_addAll h.placed.emojis
  case guildDelete r => exact s.eraseGroup_eraseGroup r.id
  case guildEmojisUpdate e =>
    exact sound.replaceGroup_replaceGroup (List.forall_mem_map.2 fun _ _ => rfl)
  all_goals rfl

theorem onStickers_idem {s : GroupedStore Sticker} (sound : s.Sound on) :
    e.onStickers (e.onStickers s) = e.onStickers s := by
  cases e
  case guildCreate h => exact s.addAll_addAll h.placed.stickers
  case guildDelete r => exact s.eraseGroup_eraseGroup r.id
  case guildStickersUpdate e =>
    exact sound.replaceGroup_replaceGroup (List.forall_mem_map.2 fun _ _ => rfl)
  all_goals rfl

theorem onMembers_idem {s : GroupedStore Member} (sound : s.Sound on) :
    e.onMembers (e.onMembers s) = e.onMembers s := by
  refine GroupedStore.Sound.idem
    (fun g id old => (memberFate g id e).on (old.map (editMember g e))) ?_ e.onMembers_sound
    (get?_onMembers · e) sound
  intro g id old
  -- What is neither written nor deleted has been edited, and is edited alike again.
  cases memberFate g id e with
  | stays => simp [Fate.on, Option.map_map, Function.comp_def, editMember_idem]
  | becomes m => rfl
  | goes => rfl

/-- Every shelf that changes by itself is the same after the second time. -/
theorem onShelf_idem (k : Shelf) {s : GroupedStore k.Entity} (sound : s.Sound on) :
    e.onShelf k (e.onShelf k s) = e.onShelf k s := by
  cases k with
  | roles =>
    exact GroupedStore.Sound.idem (fun g id => (roleFate g id e).on) (fun _ _ => Fate.on_on _)
      e.onRoles_sound (fun s => get?_onRoles s.retains e) sound
  | members => exact e.onMembers_idem sound
  | presences =>
    exact GroupedStore.Sound.idem (fun g id => (presenceFate g id e).on) (fun _ _ => Fate.on_on _)
      e.onPresences_sound (fun s => get?_onPresences s.retains e) sound
  | voiceStates =>
    exact GroupedStore.Sound.idem (fun g id => (voiceStateFate g id e).on)
      (fun _ _ => Fate.on_on _) e.onVoiceStates_sound (fun s => get?_onVoiceStates s.retains e)
      sound
  | emojis => exact e.onEmojis_idem sound
  | stickers => exact e.onStickers_idem sound
  | stageInstances =>
    exact GroupedStore.Sound.idem (fun g id => (stageInstanceFate g id e).on)
      (fun _ _ => Fate.on_on _) e.onStageInstances_sound
      (fun s => get?_onStageInstances s.retains e) sound
  | scheduledEvents =>
    exact GroupedStore.Sound.idem (fun g id => (scheduledEventFate g id e).on)
      (fun _ _ => Fate.on_on _) e.onScheduledEvents_sound
      (fun s => get?_onScheduledEvents s.retains e) sound
  | threadMembers => rfl
  | messages => rfl

end Event

/-! ### Parts that depend on other parts -/

/-- Who joins and leaves in one event has left, however often. -/
theorem GroupedStore.takeAll_addAll_idem {V : Type} [Filed V] (s : GroupedStore V)
    (values : List V) (g : Snowflake) (ids : List Snowflake) :
    ((((s.addAll values).takeAll g ids).2.addAll values).takeAll g ids).2 =
      ((s.addAll values).takeAll g ids).2 := by
  simp only [snd_takeAll]
  refine ext_get? (by simp) fun k id => ?_
  simp only [get?_eraseIf, get?_addAll, retains_eraseIf, retains_addAll]
  cases s.retains with
  | false => rfl
  | true =>
    cases lastFiled k id values with
    | some v => simp only [if_true, Option.some_or]
    | none => simp only [if_true, Option.none_or, Option.filter_filter, Bool.and_self]

namespace Channel

theorem messageSent_messageSent (messageId : Snowflake) (ch : Channel) :
    (ch.messageSent messageId).messageSent messageId =
      (ch.messageSent messageId).mapThread .messageSent := by
  cases ch <;> rfl

theorem guildId_messageSent (messageId : Snowflake) (ch : Channel) :
    (ch.messageSent messageId).guildId = ch.guildId := by
  cases ch <;> rfl

theorem withLastPin_withLastPin (lastPin : Option Timestamp) (ch : Channel) :
    (ch.withLastPin lastPin).withLastPin lastPin = ch.withLastPin lastPin := by
  cases ch <;> rfl

end Channel

theorem Store.threadsIn_of_get? {s t : Store Channel}
    (known : ∀ id ch, t.get? id = some ch → s.get? id = some ch) {parentId : Snowflake}
    {thread : ThreadChannel} (child : thread ∈ t.threadsIn parentId) :
    thread ∈ s.threadsIn parentId := by
  obtain ⟨⟨id, found⟩, same⟩ := mem_threadsIn.1 child
  exact mem_threadsIn.2 ⟨⟨id, known id _ found⟩, same⟩

namespace Cache

variable {flags : Retention} {c c' : Cache} (now : Timestamp)

/-- Whether a channel that hides its threads is seen does not depend on other channels. -/
theorem hidesFromSelf_congr {ch : Channel} (hides : ch.hidesThreads = true)
    (selfUser : c.selfUser = c'.selfUser) (guilds : c.guilds = c'.guilds)
    (roles : c.roles = c'.roles) (members : c.members = c'.members) :
    c.hidesFromSelf now ch = c'.hidesFromSelf now ch := by
  cases c
  cases c'
  dsimp only at selfUser guilds roles members
  subst selfUser guilds roles members
  cases ch
  -- A text channel and a news channel go by their own overwrites.
  case text => rfl
  case news => rfl
  all_goals cases hides

/-- What an event evicts the second time it has evicted the first time. -/
theorem evictedBy_again {e : Event} {id : Snowflake}
    (again : ((c.apply now e).1.evictedBy now e).contains id) :
    (c.evictedBy now e).contains id := by
  rw [List.contains_iff_mem] at again ⊢
  cases e
  case channelUpdate u =>
    have after : (c.apply now (.channelUpdate u)).1.channels =
        (c.channels.put u.current.id u.current).eraseIf fun id _ =>
          (c.evictedBy now (.channelUpdate u)).contains id := channels_apply ..
    obtain ⟨t, hidden, rfl⟩ := List.mem_map.1 again
    obtain ⟨hides, unseen, child⟩ := (mem_hiddenThreads now).1 hidden
    refine List.mem_map.2 ⟨t, (mem_hiddenThreads now).2 ⟨hides, ?_, ?_⟩, rfl⟩
    · -- The first time left the parts alone that decide what is seen.
      rw [← unseen]
      apply hidesFromSelf_congr now hides <;> simp only [addChannel, fst_apply] <;> rfl
    · refine Store.threadsIn_of_get? (fun id ch found => ?_) child
      simp only [addChannel, after] at found ⊢
      by_cases here : c.channels.retains ∧ id = u.current.id
      · rw [Store.get?_put, if_pos (by simpa using here)] at found
        rw [Store.get?_put, if_pos here]
        exact found
      · rw [Store.get?_put, if_neg (by simpa using here)] at found
        exact Store.found_of_eraseIf found
  case channelDelete u =>
    have after : (c.apply now (.channelDelete u)).1.channels = c.channels.eraseIf fun id _ =>
        (c.evictedBy now (.channelDelete u)).contains id := channels_apply ..
    rcases List.mem_cons.1 again with same | below
    · exact List.mem_cons.2 (.inl same)
    · obtain ⟨t, child, rfl⟩ := List.mem_map.1 below
      refine List.mem_cons_of_mem _ (List.mem_map.2 ⟨t, ?_, rfl⟩)
      refine Store.threadsIn_of_get? (fun id ch found => ?_) child
      simp only [evictChannel, after, Store.get?_erase, Store.get?_eraseIf] at found ⊢
      split at found
      · cases found
      next other =>
        rw [if_neg other]
        exact (Option.filter_eq_some_iff.1 found).1
  all_goals exact again

/-- A changed channel is not among the threads that it hides. -/
theorem Sound.not_mem_evictedBy (sound : c.Sound flags) (u : Change Channel) :
    u.current.id ∉ c.evictedBy now (.channelUpdate u) := by
  intro evicted
  obtain ⟨t, hidden, same⟩ := List.mem_map.1 evicted
  obtain ⟨hides, -, child⟩ := (mem_hiddenThreads now).1 hidden
  obtain ⟨t, found, -⟩ := (sound.channels.put u.current).mem_threadIds.1
    (List.mem_map.2 ⟨t, child, same⟩)
  rw [Store.get?_put] at found
  split at found
  next =>
    -- What is found under its id is the channel itself, and that is no thread.
    rw [Option.some.inj found] at hides
    cases hides
  next off =>
    have off : c.channels.retains = false := by simpa using off
    rw [Store.get?_of_not_retains off] at found
    cases found

theorem Sound.channelsAfter_again (sound : c.Sound flags) (e : Event) :
    (c.apply now e).1.channelsAfter now e = e.recountMessages (c.apply now e).1.channels := by
  cases e <;> simp only [channels_apply, Cache.channelsAfter, Event.recountMessages]
  case messageCreate m =>
    simp only [Store.modify_modify, Channel.messageSent_messageSent]
  case guildCreate h => exact Store.putAll_putAll ..
  case guildDelete r =>
    rw [(sound.channels.takeGuild r.id).snd_takeGuild, sound.channels.snd_takeGuild]
    exact Store.eraseIf_eraseIf_of_imp _ fun _ _ same => same
  case channelCreate ch => exact Store.put_put ..
  case channelUpdate u =>
    rw [Store.put_eraseIf, Store.put_put]
    · exact Store.eraseIf_eraseIf_of_imp _ fun _ _ => evictedBy_again now
    · simpa using sound.not_mem_evictedBy now u
  case channelDelete u => exact Store.eraseIf_eraseIf_of_imp _ fun _ _ => evictedBy_again now
  case channelPinsUpdate p =>
    simp only [Store.modify_modify, Channel.withLastPin_withLastPin]
  case threadCreate o => exact Store.put_put ..
  case threadUpdate u => exact Store.put_put ..
  case threadDelete r => exact Store.eraseIf_eraseIf_of_imp _ fun _ _ => evictedBy_again now
  case threadListSync s => exact Store.putAll_putAll ..
  case threadMembersUpdate a => simp only [Store.modify_modify, Channel.mapThread_mapThread]

/-- What is filed under channels that an event evicts is gone after the first time. -/
theorem eraseIf_evicted_again {V : Type} (s : GroupedStore V) (now : Timestamp) (c : Cache)
    (e : Event) :
    (s.eraseIf fun ch _ _ => (c.evictedBy now e).contains ch).eraseIf
        (fun ch _ _ => ((c.apply now e).1.evictedBy now e).contains ch) =
      s.eraseIf fun ch _ _ => (c.evictedBy now e).contains ch :=
  s.eraseIf_eraseIf_of_imp fun _ _ _ => evictedBy_again now

theorem Sound.threadMembersAfter_again (sound : c.Sound flags) (e : Event) :
    (c.apply now e).1.threadMembersAfter now e = (c.apply now e).1.threadMembers := by
  cases e <;> simp only [threadMembers_apply, Cache.threadMembersAfter]
  case guildDelete r =>
    refine GroupedStore.eraseIf_eraseIf_of_imp _ fun id _ _ listed => ?_
    rw [List.contains_iff_mem] at listed ⊢
    -- The second time there is nothing left of the guild to list.
    obtain ⟨t, found, same⟩ := (sound.apply now _).mem_guildThreadIds.1 listed
    have before := (((sound.removes now r).channels id (.thread t)).1 found).1
    exact sound.mem_guildThreadIds.2 ⟨t, before, same⟩
  case channelUpdate => exact eraseIf_evicted_again ..
  case channelDelete => exact eraseIf_evicted_again ..
  case threadCreate o =>
    have placed : (c.apply now (.threadCreate o)).1.placeMembership = c.placeMembership := by
      funext threadId m
      simp only [placeMembership, fst_apply]
      rfl
    rw [placed]
    exact GroupedStore.addAll_addAll ..
  case threadDelete => exact eraseIf_evicted_again ..
  case threadListSync s => exact GroupedStore.addAll_addAll ..
  case threadMemberUpdate m => exact GroupedStore.add_add ..
  case threadMembersUpdate a => exact GroupedStore.takeAll_addAll_idem ..

theorem Sound.messagesAfter_again (sound : c.Sound flags) (e : Event) :
    (c.apply now e).1.messagesAfter now e = (c.apply now e).1.messages := by
  cases e <;> simp only [messages_apply, Cache.messagesAfter]
  case messageCreate m =>
    -- The channel has another last message, but it is of the same guild.
    have placed : (c.apply now (.messageCreate m)).1.placeMessage m = c.placeMessage m := by
      simp only [placeMessage, channels_apply, Cache.channelsAfter, Store.get?_modify, if_true,
        Option.map_map, Function.comp_def, Channel.guildId_messageSent]
    rw [placed]
    exact GroupedStore.add_add ..
  case messageUpdate u => exact GroupedStore.add_add ..
  case messageDelete r => exact GroupedStore.erase_erase ..
  case messageDeleteBulk r =>
    simp only [GroupedStore.snd_takeAll]
    exact GroupedStore.eraseIf_eraseIf_of_imp _ fun _ _ _ same => same
  case guildDelete r =>
    refine GroupedStore.eraseIf_eraseIf_of_imp _ fun id _ m gone => ?_
    simp only [Bool.or_eq_true, List.contains_iff_mem] at gone ⊢
    refine gone.imp_left fun listed => ?_
    obtain ⟨ch, found, same⟩ := (sound.apply now _).mem_guildChannelIds.1 listed
    have before := (((sound.removes now r).channels id ch).1 found).1
    exact sound.mem_guildChannelIds.2 ⟨ch, before, same⟩
  case channelUpdate => exact eraseIf_evicted_again ..
  case channelDelete => exact eraseIf_evicted_again ..
  case threadDelete => exact eraseIf_evicted_again ..

/-- A second delivery counts again and changes nothing else. -/
theorem Sound.apply_again (sound : c.Sound flags) (e : Event) :
    let once := (c.apply now e).1
    (once.apply now e).1 = { once with
      guilds := e.recountMembers once.guilds
      channels := e.recountMessages once.channels } := by
  intro once
  apply ext_parts
  case retention => simp only [fst_apply]
  case selfUser =>
    simp only [once, fst_apply]
    exact e.onSelf_idem c.selfUser
  case unready =>
    simp only [once, fst_apply]
    exact e.onUnready_idem c.unready
  case unavailable =>
    simp only [once, fst_apply]
    exact e.onUnavailable_idem c.unavailable
  case guilds =>
    simp only [once, fst_apply]
    exact e.onGuilds_onGuilds c.guilds
  case channels => exact (once.channels_apply now e).trans (sound.channelsAfter_again now e)
  case shelves =>
    intro k
    have rest : k.store { once with
        guilds := e.recountMembers once.guilds
        channels := e.recountMessages once.channels } = k.store once := by cases k <;> rfl
    rw [rest]
    by_cases threads : k = .threadMembers
    · subst threads
      exact (once.threadMembers_apply now e).trans (sound.threadMembersAfter_again now e)
    · by_cases messages : k = .messages
      · subst messages
        exact (once.messages_apply now e).trans (sound.messagesAfter_again now e)
      · rw [store_apply now once e threads messages, store_apply now c e threads messages]
        exact e.onShelf_idem k (sound.shelves k)

/-- Without a thread in the channel that an event names there is nothing to count again. -/
theorem recount_of_not_thread {e : Event} {id : Snowflake}
    (counted : e.countedChannel? = some id) (absent : c.thread? id = none) :
    e.recountMembers c.guilds = c.guilds ∧ e.recountMessages c.channels = c.channels := by
  have kept (f : ThreadChannel → ThreadChannel) :
      c.channels.modify id (Channel.mapThread f) = c.channels := by
    refine Store.modify_eq_self fun ch found => ?_
    rw [thread?, found, Option.bind_some] at absent
    exact Channel.mapThread_of_not_thread absent f
  cases e <;> cases counted
  case messageCreate m => exact ⟨rfl, kept _⟩
  case messageDelete r => exact ⟨rfl, kept _⟩
  case messageDeleteBulk r => exact ⟨rfl, kept _⟩

/--
After any session an event that comes twice, at whatever times, leaves the cache as it did when it
came once, but that an arrival or departure changes the member count of its guild again, and
messages that are sent or deleted change the counts of their channel again if that is a thread.
-/
theorem redelivery_recounts (flags : Retention) (calls : List Call) (e : Event)
    (t₁ t₂ : Timestamp) :
    let once := ((session flags calls).apply t₁ e).1
    let twice := (once.apply t₂ e).1
    twice = { once with
        guilds := e.recountMembers once.guilds
        channels := e.recountMessages once.channels } ∧
      ∀ id, e.countedChannel? = some id → once.thread? id = none → twice = once := by
  intro once twice
  have again : twice = { once with
      guilds := e.recountMembers once.guilds
      channels := e.recountMessages once.channels } := by
    have timeless : twice = (once.apply t₁ e).1 := by rw [apply_timeless t₁ t₂]
    rw [timeless]
    exact (session_sound flags calls).apply_again t₁ e
  refine ⟨again, fun id counted absent => ?_⟩
  obtain ⟨guilds, channels⟩ := recount_of_not_thread counted absent
  rw [again, guilds, channels]

end Cache

end GatewayCache
