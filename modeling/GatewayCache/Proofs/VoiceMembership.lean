import GatewayCache.Proofs.Invariant

/-!
Who is connected to a voice or stage channel. The answer joins the voice states of a guild with its
members. As a user has one voice state in a guild, it is listed once, and in one channel at most.
-/
namespace GatewayCache

theorem Channel.isAudio_iff (ch : Channel) :
    ch.isAudio = true ↔ ch.kind = .voice ∨ ch.kind = .stage := by
  simp [isAudio]

/-- What is looked up by a key bears that key, so a key occurs in the answers as often at most. -/
theorem map_filterMap_sublist {α β K : Type} {look : α → Option β} {key : α → K} {key' : β → K}
    (same : ∀ a b, look a = some b → key' b = key a) (l : List α) :
    ((l.filterMap look).map key').Sublist (l.map key) := by
  induction l with
  | nil => exact .slnil
  | cons a l ih =>
    cases found : look a with
    | none =>
      rw [List.filterMap_cons_none found, List.map_cons]
      exact ih.cons _
    | some b =>
      rw [List.filterMap_cons_some found, List.map_cons, List.map_cons, same a b found]
      exact ih.cons_cons _

namespace Cache

variable {flags : Retention} {c : Cache}

/-- A member, as it is cached, whose voice state in the guild of a channel names the channel. -/
def Connected (c : Cache) (ch : Channel) (m : Member) : Prop :=
  c.members.get? ch.guildId m.userId = some m ∧
    ∃ v, c.voiceStates.get? ch.guildId m.userId = some v ∧ v.channelId = some ch.id

/-- A user that is connected to two channels of a guild is connected to the same one twice. -/
theorem Connected.id_eq {ch ch' : Channel} {m m' : Member} (here : c.Connected ch m)
    (there : c.Connected ch' m') (guild : ch.guildId = ch'.guildId) (user : m.userId = m'.userId) :
    ch.id = ch'.id := by
  obtain ⟨-, v, state, joined⟩ := here
  obtain ⟨-, v', state', joined'⟩ := there
  rw [guild, user, state'] at state
  cases state
  exact Option.some.inj (joined.symm.trans joined')

namespace Sound

theorem userId_of_member (sound : c.Sound flags) {g id : Snowflake} {m : Member}
    (found : c.members.get? g id = some m) : m.userId = id :=
  (sound.placed .members found).2

theorem userId_of_voiceState (sound : c.Sound flags) {g id : Snowflake} {v : VoiceState}
    (found : c.voiceStates.get? g id = some v) : v.userId = id :=
  (sound.placed .voiceStates found).2

theorem mem_audioMembers (sound : c.Sound flags) {ch : Channel} {m : Member} :
    m ∈ c.audioMembers ch ↔ ch.isAudio = true ∧ c.Connected ch m := by
  rw [audioMembers]
  split
  next audio =>
    simp only [List.mem_filterMap, List.mem_filter, GroupedStore.mem_groupValues, beq_iff_eq,
      audio, true_and, Connected]
    constructor
    · rintro ⟨v, ⟨⟨id, state⟩, here⟩, found⟩
      -- Both the voice state and the member go by the id that the state is under.
      have own : v.userId = id := sound.userId_of_voiceState state
      have user : m.userId = v.userId := sound.userId_of_member found
      subst own
      rw [user]
      exact ⟨found, v, state, here⟩
    · rintro ⟨found, v, state, here⟩
      have user : v.userId = m.userId := sound.userId_of_voiceState state
      refine ⟨v, ⟨⟨_, state⟩, here⟩, ?_⟩
      rw [user]
      exact found
  next silent => simp [silent]

/-- No user is listed twice. -/
theorem nodup_audioMembers (sound : c.Sound flags) (ch : Channel) :
    ((c.audioMembers ch).map Member.userId).Nodup := by
  rw [audioMembers]
  split
  next =>
    have states : ((c.voiceStates.groupValues ch.guildId).map VoiceState.userId).Nodup :=
      (sound.shelves .voiceStates).nodup_keys ch.guildId
    have connected : (((c.voiceStates.groupValues ch.guildId).filter
        (·.channelId == some ch.id)).map VoiceState.userId).Nodup :=
      (List.filter_sublist.map VoiceState.userId).nodup states
    -- Joining with the members only leaves users out, so it lists none again.
    apply List.Sublist.nodup _ connected
    exact map_filterMap_sublist (fun _ _ found => sound.userId_of_member found) _
  next => exact .nil

/-! ### Voice states that change -/

/-- A voice state with a channel is what is kept of its user, and one without leaves nothing. -/
theorem get?_voiceStateUpdate (sound : c.Sound flags) (now : Timestamp) (e : VoiceChange) :
    (c.apply now (.voiceStateUpdate e)).1.voiceStates.get? e.voiceState.guildId
        e.voiceState.userId =
      if flags.keeps .voiceStates ∧ e.voiceState.channelId.isSome then some e.voiceState
      else none := by
  have retains : c.voiceStates.retains = flags.keeps .voiceStates :=
    (sound.shelves .voiceStates).retains
  rw [fst_apply]
  simp only [Event.onVoiceStates]
  cases channel : e.voiceState.channelId.isSome with
  | true =>
    cases on : flags.keeps .voiceStates with
    | true => simp [GroupedStore.get?_add, retains, on, Filed.owner?, Filed.key]
    | false =>
      have nothing := GroupedStore.get?_of_not_retains (retains.trans on)
      simp [GroupedStore.get?_add, retains, on, nothing]
  | false => simp [GroupedStore.get?_erase]

/-- The user of a voice state is cached as a member if it was before, or if the member comes with
the voice state. -/
theorem exists_member_voiceStateUpdate (sound : c.Sound flags) (now : Timestamp) (e : VoiceChange)
    (id : Snowflake) :
    (∃ m, (c.apply now (.voiceStateUpdate e)).1.members.get? e.voiceState.guildId id = some m) ↔
      (∃ m, c.members.get? e.voiceState.guildId id = some m) ∨
        flags.keeps .members = true ∧ ∃ m, e.member = some m ∧ m.userId = id := by
  have retains : c.members.retains = flags.keeps .members := (sound.shelves .members).retains
  rw [fst_apply]
  simp only [Event.onMembers]
  cases nested : e.member with
  | none => simp [GroupedStore.addAll]
  | some m =>
    let placed : Member := { m with guildId := e.voiceState.guildId }
    have filed : c.members.addAll ((some m).map fun m =>
        { m with guildId := e.voiceState.guildId }).toList = c.members.add placed := rfl
    have owner : Filed.owner? placed = some e.voiceState.guildId := rfl
    have key : Filed.key placed = m.userId := rfl
    rw [filed, GroupedStore.get?_add, retains, owner, key]
    cases on : flags.keeps .members <;> by_cases own : m.userId = id <;> simp [own]

end Sound

/--
After any session the list of a voice or stage channel is of the members that are connected to it,
each once; for a channel of another kind there is none. A user is not in the lists of two channels
of a guild. A voice state that changes puts its user, if it is a cached member and voice states are
retained, into the list of the channel that it names, and takes it from the lists of all others.
-/
theorem voice_membership (flags : Retention) (calls : List Call) :
    let c := session flags calls
    (∀ ch : Channel, ch.kind = .voice ∨ ch.kind = .stage →
      (∀ m, m ∈ c.audioMembers ch ↔ c.Connected ch m) ∧
        ((c.audioMembers ch).map Member.userId).Nodup) ∧
    (∀ ch : Channel, ¬(ch.kind = .voice ∨ ch.kind = .stage) → c.audioMembers ch = []) ∧
    (∀ ch ch' : Channel, ch.guildId = ch'.guildId → ch.id ≠ ch'.id →
      ∀ m ∈ c.audioMembers ch, ∀ m' ∈ c.audioMembers ch', m.userId ≠ m'.userId) ∧
    ∀ (now : Timestamp) (e : VoiceChange),
      let c' := (c.apply now (.voiceStateUpdate e)).1
      let guildId := e.voiceState.guildId
      let userId := e.voiceState.userId
      ((∃ m, c'.members.get? guildId userId = some m) ↔
        (∃ m, c.members.get? guildId userId = some m) ∨
          flags.keeps .members = true ∧ ∃ m, e.member = some m ∧ m.userId = userId) ∧
      ∀ ch : Channel, ch.guildId = guildId →
        (userId ∈ (c'.audioMembers ch).map Member.userId ↔
          (ch.kind = .voice ∨ ch.kind = .stage) ∧ flags.keeps .voiceStates = true ∧
            e.voiceState.channelId = some ch.id ∧
            ∃ m, c'.members.get? guildId userId = some m) := by
  intro c
  have sound : c.Sound flags := session_sound flags calls
  refine ⟨?_, ?_, ?_, ?_⟩
  · intro ch audio
    refine ⟨fun m => ?_, sound.nodup_audioMembers ch⟩
    rw [sound.mem_audioMembers, ch.isAudio_iff]
    exact and_iff_right audio
  · intro ch other
    refine List.eq_nil_iff_forall_not_mem.2 fun m listed => ?_
    exact other (ch.isAudio_iff.1 (sound.mem_audioMembers.1 listed).1)
  · intro ch ch' guild different m listed m' listed' user
    have here : c.Connected ch m := (sound.mem_audioMembers.1 listed).2
    have there : c.Connected ch' m' := (sound.mem_audioMembers.1 listed').2
    exact different (here.id_eq there guild user)
  · intro now e c' guildId userId
    have after : c'.Sound flags := sound.apply now (.voiceStateUpdate e)
    have state := sound.get?_voiceStateUpdate now e
    refine ⟨sound.exists_member_voiceStateUpdate now e userId, fun ch guild => ?_⟩
    simp only [List.mem_map, after.mem_audioMembers, Channel.isAudio_iff, Connected, guild]
    constructor
    · rintro ⟨m, ⟨audio, found, v, kept, joined⟩, user⟩
      rw [user] at found kept
      -- What is kept of the user is the new voice state, if anything.
      have now_kept := state.symm.trans kept
      split at now_kept
      next holds =>
        cases now_kept
        exact ⟨audio, holds.1, joined, m, found⟩
      next => cases now_kept
    · rintro ⟨audio, on, joined, m, found⟩
      have user : m.userId = userId := after.userId_of_member found
      rw [if_pos ⟨on, by rw [joined]; rfl⟩] at state
      exact ⟨m, ⟨audio, user ▸ found, e.voiceState, user ▸ state, joined⟩, user⟩

/-- A member that comes with its voice state is listed at once, and moves between channels. -/
theorem voice_membership_of_move :
    let lounge : Channel := .voice { id := 30, guildId := 1, name := "" }
    let podium : Channel := .stage { id := 31, guildId := 1, name := "" }
    let member : Member := { guildId := 0, user := { id := 7, username := "" } }
    let join (channelId : Option Snowflake) : VoiceChange :=
      ⟨{ guildId := 1, channelId, userId := 7 }, some member, none⟩
    let c := session .all [.handle .epoch (.voiceStateUpdate (join (some 30)))]
    let moved := (c.apply .epoch (.voiceStateUpdate (join (some 31)))).1
    { member with guildId := 1 } ∈ c.audioMembers lounge ∧ c.audioMembers (.text default) = [] ∧
      (∀ m ∈ c.audioMembers lounge, ∀ m' ∈ c.audioMembers podium, m.userId ≠ m'.userId) ∧
      7 ∈ (moved.audioMembers podium).map Member.userId ∧
      7 ∉ (moved.audioMembers lounge).map Member.userId := by
  intro lounge podium member join c moved
  obtain ⟨listed, unlisted, disjoint, changed⟩ :=
    voice_membership .all [.handle .epoch (.voiceStateUpdate (join (some 30)))]
  obtain ⟨cached, membership⟩ := changed .epoch (join (some 31))
  refine ⟨?_, unlisted _ (by decide), disjoint lounge podium rfl (by decide), ?_, ?_⟩
  · exact ((listed lounge (.inl rfl)).1 _).2 ⟨rfl, _, rfl, rfl⟩
  · exact (membership podium rfl).2 ⟨.inr rfl, rfl, rfl, cached.2 (.inr ⟨rfl, member, rfl, rfl⟩)⟩
  · intro still
    exact absurd ((membership lounge rfl).1 still).2.2.1 (by decide)

end Cache

end GatewayCache
