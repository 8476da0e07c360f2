import GatewayCache.Proofs.ChannelRemoval
import GatewayCache.Proofs.Redelivery

/-!
Losing sight of a channel. A text or news channel that the current user, as a cached member of its
guild, may not see any more takes its threads along; no other change of a channel removes anything.
The permissions are computed after the channel is stored, but what they depend on is the channel
itself and parts that storing it leaves alone.
-/
namespace GatewayCache

namespace Cache

open Permission

variable {flags : Retention} {c : Cache} {id : Snowflake} {ch : Channel}

/-- The current user is cached as a member of the channel's guild, and its permissions in the
channel, whose kind is one that hides threads, leave seeing the channel out. -/
structure LosesSight (c : Cache) (now : Timestamp) (ch : Channel) : Prop where
  kind : ch.kind = .text ∨ ch.kind = .news
  unseen : ∃ user me, c.selfUser = some user ∧ c.members.get? ch.guildId user.id = some me ∧
    (c.memberPermissionsIn now ch me).has viewChannel = false

theorem hidesFromSelf_iff (now : Timestamp) :
    c.hidesFromSelf now ch = true ↔
      ∃ user me, c.selfUser = some user ∧ c.members.get? ch.guildId user.id = some me ∧
        (c.memberPermissionsIn now ch me).has viewChannel = false := by
  have self (me : Member) : c.selfMember? ch.guildId = some me ↔
      ∃ user, c.selfUser = some user ∧ c.members.get? ch.guildId user.id = some me :=
    Option.bind_eq_some_iff
  rw [hidesFromSelf, Option.any_eq_true]
  simp only [self, Bool.not_eq_true']
  constructor
  · rintro ⟨me, ⟨user, known, member⟩, unseen⟩
    exact ⟨user, me, known, member, unseen⟩
  · rintro ⟨user, me, known, member, unseen⟩
    exact ⟨me, ⟨user, known, member⟩, unseen⟩

theorem losesSight_iff (now : Timestamp) :
    c.LosesSight now ch ↔ ch.hidesThreads = true ∧ c.hidesFromSelf now ch = true := by
  have hides : ch.hidesThreads = true ↔ ch.kind = .text ∨ ch.kind = .news := by
    rw [Channel.hidesThreads, Bool.or_eq_true, beq_iff_eq, beq_iff_eq]
  rw [hides, hidesFromSelf_iff]
  constructor
  · intro loses
    exact ⟨loses.kind, loses.unseen⟩
  · rintro ⟨kind, unseen⟩
    exact ⟨kind, unseen⟩

theorem losesSight_addChannel (now : Timestamp) :
    (c.addChannel ch).LosesSight now ch ↔ c.LosesSight now ch := by
  rw [losesSight_iff, losesSight_iff]
  refine and_congr_right fun hides => ?_
  have same : (c.addChannel ch).hidesFromSelf now ch = c.hidesFromSelf now ch :=
    hidesFromSelf_congr now hides rfl rfl rfl rfl
  rw [same]

/-- Evicted are the threads of a channel that is not seen any more, besides that channel. -/
theorem Sound.mem_evictedBy_channelUpdate (sound : c.Sound flags) (now : Timestamp)
    (u : Change Channel) :
    id ∈ c.evictedBy now (.channelUpdate u) ↔ c.LosesSight now u.current ∧
      id ≠ u.current.id ∧ ∃ t, c.channels.get? id = some (.thread t) ∧
        t.parentId = u.current.id := by
  have sight : (c.addChannel u.current).LosesSight now u.current ↔ c.LosesSight now u.current :=
    losesSight_addChannel now
  -- Storing the channel changes nothing under other ids.
  have below (other : id ≠ u.current.id) :
      id ∈ ((c.addChannel u.current).threadsIn u.current.id).map (·.id) ↔
        ∃ t, c.channels.get? id = some (.thread t) ∧ t.parentId = u.current.id := by
    have stored : (c.channels.put u.current.id u.current).get? id = c.channels.get? id := by
      rw [Store.get?_put, if_neg fun here => other here.2]
    rw [addChannel, threadsIn, (sound.channels.put u.current).mem_threadIds, stored]
  constructor
  · intro evicted
    have other : id ≠ u.current.id := by
      rintro rfl
      exact sound.not_mem_evictedBy now u evicted
    obtain ⟨t, hidden, own⟩ := List.mem_map.1 evicted
    obtain ⟨hides, unseen, child⟩ := (mem_hiddenThreads now).1 hidden
    refine ⟨?_, other, (below other).1 (List.mem_map.2 ⟨t, child, own⟩)⟩
    exact sight.1 ((losesSight_iff now).2 ⟨hides, unseen⟩)
  · rintro ⟨loses, other, before⟩
    obtain ⟨hides, unseen⟩ := (losesSight_iff now).1 (sight.2 loses)
    obtain ⟨t, child, own⟩ := List.mem_map.1 ((below other).2 before)
    exact List.mem_map.2 ⟨t, (mem_hiddenThreads now).2 ⟨hides, unseen, child⟩, own⟩

/--
After any session, a changed channel takes the place of the one under its id, where channels are
retained. If the current user loses sight of it, its threads go, except for what was under its own
id, with their messages and thread members; if not, nothing else changes.
-/
theorem channelUpdate_drops (flags : Retention) (calls : List Call) (now : Timestamp)
    (u : Change Channel) :
    let c := session flags calls
    let ch := u.current
    let c' := (c.apply now (.channelUpdate u)).1
    c'.channels.get? ch.id = (if flags.keeps .channels then some ch else none) ∧
      (c.LosesSight now ch →
        Drops (fun id => id ≠ ch.id ∧
          ∃ t, c.channels.get? id = some (.thread t) ∧ t.parentId = ch.id)
          (c.addChannel ch) c') ∧
      (¬c.LosesSight now ch → c' = c.addChannel ch) := by
  intro c ch c'
  have sound : c.Sound flags := session_sound flags calls
  have evicts : Drops (· ∈ c.evictedBy now (.channelUpdate u)) (c.addChannel ch) c' :=
    drops_evictChannels ..
  refine ⟨?_, ?_, ?_⟩
  · -- What is found under the id is what was stored, as the id is not among the evicted ones.
    have kept : c'.channels.get? ch.id = (c.channels.put ch.id ch).get? ch.id :=
      eq_of_spared (evicts.channels ch.id) (sound.not_mem_evictedBy now u)
    rw [kept, Store.get?_put, sound.channels.retains]
    by_cases on : flags.keeps .channels = true
    · rw [if_pos ⟨on, rfl⟩, if_pos on]
    · have off : c.channels.retains = false := by
        rw [sound.channels.retains, Bool.eq_false_iff]
        exact on
      rw [if_neg fun both => on both.1, if_neg on, Store.get?_of_not_retains off]
  · intro loses
    refine evicts.of_iff fun id => ?_
    rw [sound.mem_evictedBy_channelUpdate now u]
    exact (and_iff_right loses).symm
  · intro sees
    have nothing : c.evictedBy now (.channelUpdate u) = [] := by
      refine List.eq_nil_iff_forall_not_mem.2 fun id evicted => ?_
      exact sees ((sound.mem_evictedBy_channelUpdate now u).1 evicted).1
    have after : c' = (c.addChannel ch).evictChannels (c.evictedBy now (.channelUpdate u)) := rfl
    rw [after, nothing]
    rfl

/--
A denial for `@everyone` hides a channel from a member without roles, and the thread in it goes; a
member overwrite that allows what the other denies keeps both.
-/
theorem channelUpdate_drops_of_denial :
    let self : SelfUser := { user := { id := 9, username := "" } }
    let me : Member := { guildId := 1, user := self.user }
    let everyone : Role := { id := 1, guildId := 1, name := "", permissions := .only viewChannel }
    let thread : Channel :=
      .thread { id := 11, guildId := 1, parentId := 10, kind := .publicThread, name := "" }
    let calls : List Call := [.setSelf self, .add .members me, .add .roles everyone,
      .addChannel thread, .add .threadMembers { threadId := 11, userId := 9 },
      .add .threadMembers { threadId := 10, userId := 9 }]
    let c := session .all calls
    let denial : Overwrite := { id := 1, kind := .role, allow := ∅, deny := .only viewChannel }
    let grant : Overwrite := { id := 9, kind := .member, allow := .only viewChannel, deny := ∅ }
    let channel (overwrites : List Overwrite) : Channel :=
      .news { id := 10, guildId := 1, name := "", overwrites := ⟨overwrites⟩ }
    let changed (ch : Channel) := (c.apply .epoch (.channelUpdate { current := ch })).1
    let hidden := changed (channel [denial])
    hidden.channels.get? 10 = some (channel [denial]) ∧ hidden.channels.get? 11 = none ∧
      hidden.threadMembers.get? 11 9 = none ∧
      hidden.threadMembers.get? 10 9 = some { threadId := 10, userId := 9 } ∧
      changed (channel [denial, grant]) = c.addChannel (channel [denial, grant]) := by
  intro self me everyone thread calls c denial grant channel changed hidden
  have loses : c.LosesSight .epoch (channel [denial]) :=
    (losesSight_iff .epoch).2 ⟨by decide, by decide⟩
  have sees : ¬c.LosesSight .epoch (channel [denial, grant]) := by
    intro loses
    exact absurd ((losesSight_iff .epoch).1 loses).2 (by decide)
  obtain ⟨replaced, drops, -⟩ :=
    channelUpdate_drops .all calls .epoch { current := channel [denial] }
  obtain ⟨-, -, spared⟩ :=
    channelUpdate_drops .all calls .epoch { current := channel [denial, grant] }
  have dropped := drops loses
  have below : c.channels.get? 11 = some thread := by decide
  refine ⟨replaced, ?_, ?_, ?_, spared sees⟩
  · refine Option.eq_none_iff_forall_ne_some.2 fun ch found => ?_
    exact ((dropped.channels 11 ch).1 found).2 ⟨by decide, _, below, rfl⟩
  · refine Option.eq_none_iff_forall_ne_some.2 fun m found => ?_
    exact ((dropped.threadMembers 11 9 m).1 found).2 ⟨by decide, _, below, rfl⟩
  · exact (dropped.threadMembers 10 9 _).2 ⟨by decide, fun gone => gone.1 rfl⟩

end Cache

end GatewayCache
