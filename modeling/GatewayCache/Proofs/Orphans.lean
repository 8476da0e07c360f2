import GatewayCache.Proofs.ChannelPlan
import GatewayCache.Proofs.ChannelRemoval
import GatewayCache.Proofs.GuildRemoval

/-!
What outlives its parent. The deletion of a channel takes the threads that name it as their parent,
and the deletion of a guild takes the channels that name the guild; the two differ in the threads
of one guild in a channel of another, and in thread members of what is no thread. A session that
keeps every id in one guild and of one kind has neither.
-/
namespace GatewayCache

namespace Cache

variable {flags : Retention} {c c' c'' : Cache} {g id : Snowflake}

/-! ### What the deletion of channels reaches -/

/-- No channel is new, and under every id that is not reached all is as it was. -/
structure TouchesOnly (reached : Snowflake → Prop) (c c' : Cache) : Prop where
  old : ∀ id ch, c'.channels.get? id = some ch → c.channels.get? id = some ch
  channels : ∀ id, ¬reached id → c'.channels.get? id = c.channels.get? id
  threadMembers : ∀ id user, ¬reached id →
    c'.threadMembers.get? id user = c.threadMembers.get? id user
  messages : ∀ id message, ¬reached id → c'.messages.get? id message = c.messages.get? id message

namespace TouchesOnly

variable {reached reached' : Snowflake → Prop}

theorem refl (reached : Snowflake → Prop) (c : Cache) : TouchesOnly reached c c where
  old _ _ found := found
  channels _ _ := rfl
  threadMembers _ _ _ := rfl
  messages _ _ _ := rfl

theorem mono (touches : TouchesOnly reached c c') (wider : ∀ id, reached id → reached' id) :
    TouchesOnly reached' c c' where
  old := touches.old
  channels id spared := touches.channels id fun here => spared (wider id here)
  threadMembers id user spared := touches.threadMembers id user fun here => spared (wider id here)
  messages id message spared := touches.messages id message fun here => spared (wider id here)

theorem trans (first : TouchesOnly reached c c') (second : TouchesOnly reached c' c'') :
    TouchesOnly reached c c'' where
  old id ch found := first.old id ch (second.old id ch found)
  channels id spared := (second.channels id spared).trans (first.channels id spared)
  threadMembers id user spared :=
    (second.threadMembers id user spared).trans (first.threadMembers id user spared)
  messages id message spared :=
    (second.messages id message spared).trans (first.messages id message spared)

end TouchesOnly

/-- What went was under an id that was reached. -/
theorem reached_of_missing {reached : Prop} {V : Type} {before after : Option V} {v : V}
    (kept : ¬reached → after = before) (found : before = some v) (missing : after = none) :
    reached := by
  refine Classical.byContradiction fun outside => ?_
  have same := kept outside
  rw [missing, found] at same
  cases same

/-- Where channels only went, no more is in them than before. -/
theorem Within.of_old {channels : Snowflake → Prop}
    (old : ∀ id ch, c'.channels.get? id = some ch → c.channels.get? id = some ch)
    (within : c'.Within channels id) : c.Within channels id := by
  rcases within with here | ⟨t, found, below⟩
  · exact .inl here
  · exact .inr ⟨t, old id _ found, below⟩

/-- What drops only what is gone touches nothing else. -/
theorem Drops.touchesOnly {gone : Snowflake → Prop} (drops : Drops gone c c') :
    TouchesOnly gone c c' where
  old id ch found := ((drops.channels id ch).1 found).1
  channels id spared := eq_of_spared (drops.channels id) spared
  threadMembers id user spared := eq_of_spared (drops.threadMembers id user) spared
  messages id message spared := eq_of_spared (drops.messages id message) spared

/-- Deletions in turn reach the channels and the threads that were in them at the start. -/
theorem Sound.touchesOnly_channelDeletes (sound : c.Sound flags) {channels : Snowflake → Prop}
    {deletions : List (Timestamp × Change Channel)}
    (among : ∀ x ∈ deletions, channels x.2.current.id) :
    TouchesOnly (c.Within channels) c
      (c.applyAll (deletions.map fun x => (x.1, .channelDelete x.2))) := by
  -- The threads in the channels get fewer on the way, so those at the start are all there are.
  induction deletions generalizing c with
  | nil => exact .refl _ c
  | cons x deletions ih =>
    obtain ⟨here, rest⟩ := List.forall_mem_cons.1 among
    have first : TouchesOnly (c.Within channels) c (c.apply x.1 (.channelDelete x.2)).1 := by
      refine (sound.drops_channelDelete x.1 x.2).touchesOnly.mono fun id within => ?_
      rcases within with same | ⟨t, found, parent⟩
      · exact .inl (same ▸ here)
      · exact .inr ⟨t, found, parent ▸ here⟩
    have later := ih (sound.apply x.1 (.channelDelete x.2)) rest
    exact first.trans (later.mono fun _ within => within.of_old first.old)

/-! ### What the deletion of a guild leaves -/

/-- The channel under the id was cached and is not any more. -/
def Evicted (c c' : Cache) (id : Snowflake) : Prop :=
  (∃ ch, c.channels.get? id = some ch) ∧ c'.channels.get? id = none

/-- A cached channel of the guild. -/
def OfGuild (g : Snowflake) (c : Cache) (id : Snowflake) : Prop :=
  ∃ ch, c.channels.get? id = some ch ∧ ch.guildId = g

/-- A cached thread of another guild in a cached channel of the guild. -/
def Stray (g : Snowflake) (c : Cache) (id : Snowflake) : Prop :=
  ∃ t, c.channels.get? id = some (.thread t) ∧ t.guildId ≠ g ∧ c.OfGuild g t.parentId

/-- A cached channel of the guild that has thread members and is no thread. -/
def Crowd (g : Snowflake) (c : Cache) (id : Snowflake) : Prop :=
  ∃ ch, c.channels.get? id = some ch ∧ ch.guildId = g ∧ ch.isThread = false ∧
    ∃ user m, c.threadMembers.get? id user = some m

/--
All that a guild's removal leaves of what is in its channels is in strays and crowds: threads with
an evicted parent, thread members of evicted channels, and whatever else deletions of the guild's
channels, each or any of them in any order, would have removed.
-/
structure LeavesOnly (g : Snowflake) (stray crowd : Snowflake → Prop) (c c' : Cache) : Prop where
  threads : ∀ id t, c'.channels.get? id = some (.thread t) → Evicted c c' t.parentId → stray id
  threadMembers : ∀ id user m, c'.threadMembers.get? id user = some m → Evicted c c' id → crowd id
  deletions : ∀ deletions : List (Timestamp × Change Channel),
    (∀ x ∈ deletions, c.OfGuild g x.2.current.id) →
    let gone := c.applyAll (deletions.map fun x => (x.1, .channelDelete x.2))
    (∀ id ch, c'.channels.get? id = some ch → gone.channels.get? id = none → stray id) ∧
      (∀ id user m, c'.threadMembers.get? id user = some m →
        gone.threadMembers.get? id user = none → stray id ∨ crowd id) ∧
      ∀ id message m, c'.messages.get? id message = some m →
        gone.messages.get? id message = none → stray id

/-- What deletions of the guild's channels reach is of the guild or a stray. -/
theorem Within.ofGuild_or_stray (within : c.Within (c.OfGuild g) id) :
    c.OfGuild g id ∨ c.Stray g id := by
  rcases within with here | ⟨t, found, parent⟩
  · exact .inl here
  · by_cases same : t.guildId = g
    · exact .inl ⟨.thread t, found, same⟩
    · exact .inr ⟨t, found, same, parent⟩

theorem Removes.ofGuild_of_evicted {outage : Bool} (removes : Removes g outage c c')
    (evicted : Evicted c c' id) : c.OfGuild g id := by
  obtain ⟨⟨ch, found⟩, gone⟩ := evicted
  refine ⟨ch, found, ?_⟩
  refine Decidable.byContradiction fun other => ?_
  have stays := (removes.channels id ch).2 ⟨found, other⟩
  rw [gone] at stays
  cases stays

/-- A channel of the guild that keeps thread members is no thread. -/
theorem Removes.crowd_of_threadMember {outage : Bool} (removes : Removes g outage c c')
    (ofGuild : c.OfGuild g id) {user : Snowflake} {m : ThreadMember}
    (left : c'.threadMembers.get? id user = some m) : c.Crowd g id := by
  obtain ⟨ch, found, same⟩ := ofGuild
  obtain ⟨before, notThread⟩ := (removes.threadMembers id user m).1 left
  refine ⟨ch, found, same, ?_, user, m, before⟩
  cases ch
  case thread t => exact absurd ⟨t, found, same⟩ notThread
  all_goals rfl

theorem Sound.leavesOnly (sound : c.Sound flags) {outage : Bool}
    (removes : Removes g outage c c') : LeavesOnly g (c.Stray g) (c.Crowd g) c c' := by
  constructor
  · intro id t left evicted
    obtain ⟨found, other⟩ := (removes.channels id (.thread t)).1 left
    exact ⟨t, found, other, removes.ofGuild_of_evicted evicted⟩
  · intro id user m left evicted
    exact removes.crowd_of_threadMember (removes.ofGuild_of_evicted evicted) left
  · intro deletions among gone
    have touches : TouchesOnly (c.Within (c.OfGuild g)) c gone :=
      sound.touchesOnly_channelDeletes among
    refine ⟨?_, ?_, ?_⟩
    · intro id ch left missing
      obtain ⟨found, other⟩ := (removes.channels id ch).1 left
      have within := reached_of_missing (touches.channels id) found missing
      rcases within.ofGuild_or_stray with ⟨ch', found', same⟩ | stray
      · -- What is left of the channels is of other guilds.
        rw [found] at found'
        cases found'
        exact absurd same other
      · exact stray
    · intro id user m left missing
      obtain ⟨found, -⟩ := (removes.threadMembers id user m).1 left
      have within := reached_of_missing (touches.threadMembers id user) found missing
      rcases within.ofGuild_or_stray with ofGuild | stray
      · exact .inr (removes.crowd_of_threadMember ofGuild left)
      · exact .inl stray
    · intro id message m left missing
      obtain ⟨found, elsewhere, -⟩ := (removes.messages id message m).1 left
      have within := reached_of_missing (touches.messages id message) found missing
      rcases within.ofGuild_or_stray with ofGuild | stray
      · -- Unlike thread members, messages go with every channel of the guild.
        exact absurd ofGuild elsewhere
      · exact stray

theorem LeavesOnly.mono {stray crowd stray' crowd' : Snowflake → Prop}
    (leaves : LeavesOnly g stray crowd c c') (strays : ∀ id, stray id → stray' id)
    (crowds : ∀ id, crowd id → crowd' id) : LeavesOnly g stray' crowd' c c' where
  threads id t left evicted := strays id (leaves.threads id t left evicted)
  threadMembers id user m left evicted := crowds id (leaves.threadMembers id user m left evicted)
  deletions deletions among := by
    obtain ⟨channels, threadMembers, messages⟩ := leaves.deletions deletions among
    refine ⟨?_, ?_, ?_⟩
    · exact fun id ch left missing => strays id (channels id ch left missing)
    · exact fun id user m left missing =>
        (threadMembers id user m left missing).imp (strays id) (crowds id)
    · exact fun id message m left missing => strays id (messages id message m left missing)

/-- In a cache that follows a plan, a thread is of the guild that its parent is of. -/
theorem Sound.not_stray (sound : c.Sound flags) {p : ChannelPlan} (follows : c.Follows p) :
    ¬c.Stray g id := by
  rintro ⟨t, found, other, parent, cached, ofGuild⟩
  have thread := follows.channels id _ found
  have above := follows.channels t.parentId parent cached
  have own : parent.id = t.parentId := sound.channels.inPlace t.parentId parent cached
  have planned : p.guildOf t.parentId = p.guildOf t.id := thread.parent t.parentId rfl
  have guild : t.guildId = p.guildOf t.id := thread.guild
  rw [guild, ← planned, ← own, ← above.guild, ofGuild] at other
  exact other rfl

/-- In a cache that follows a plan, what has thread members is a thread if it is cached. -/
theorem Sound.not_crowd (sound : c.Sound flags) {p : ChannelPlan} (follows : c.Follows p) :
    ¬c.Crowd g id := by
  rintro ⟨ch, found, -, notThread, user, m, member⟩
  have own : ch.id = id := sound.channels.inPlace id ch found
  have kind := (follows.channels id ch found).kind
  have thread := follows.threadMembers id user m member
  rw [notThread, own, thread] at kind
  cases kind

/--
After any session, the deletion of a guild leaves of what is in its channels only what is in strays
and crowds. If the session keeps every id in one guild and of one kind, threads in the guild of
their parent and thread members in threads, the deletion leaves nothing of it.
-/
theorem guildDelete_leavesOnly (flags : Retention) (calls : List Call) (now : Timestamp)
    (r : GuildRemoval) :
    let c := session flags calls
    let c' := (c.apply now (.guildDelete r)).1
    LeavesOnly r.id (c.Stray r.id) (c.Crowd r.id) c c' ∧
      ((∃ p : ChannelPlan, ∀ step ∈ calls, step.Follows p) →
        LeavesOnly r.id (fun _ => False) (fun _ => False) c c') := by
  intro c c'
  have sound : c.Sound flags := session_sound flags calls
  have leaves := sound.leavesOnly (sound.removes now r)
  refine ⟨leaves, fun ⟨p, planned⟩ => ?_⟩
  have follows : c.Follows p := session_follows flags planned
  exact leaves.mono (fun _ => sound.not_stray follows) fun _ => sound.not_crowd follows

/-- A thread in a channel of its own guild goes with the guild, and so does who is in it. -/
theorem guildDelete_leavesOnly_of_plan :
    let channel : Channel := .text { id := 10, guildId := 1, name := "" }
    let thread : ThreadChannel :=
      { id := 11, guildId := 1, parentId := 10, kind := .publicThread, name := "" }
    let member : ThreadMember := { threadId := 11, userId := 5 }
    let calls : List Call := [
      .addChannel channel,
      .handle .epoch (.threadCreate ⟨thread, true, none⟩),
      .handle .epoch (.threadMemberUpdate ⟨member, 1⟩)]
    let c := session .all calls
    let c' := (c.apply .epoch (.guildDelete ⟨1, false, none⟩)).1
    LeavesOnly 1 (fun _ => False) (fun _ => False) c c' := by
  intro channel thread member calls c c'
  let p : ChannelPlan := ⟨fun _ => 1, fun id => id == 11⟩
  have channelFits : p.Fits channel := ⟨rfl, rfl, fun _ none => by cases none⟩
  have threadFits : p.Fits (.thread thread) := ⟨rfl, rfl, fun _ _ => rfl⟩
  have planned : ∀ step ∈ calls, step.Follows p := by
    refine List.forall_mem_cons.2 ⟨channelFits, List.forall_mem_cons.2 ⟨⟨?_, ?_⟩,
      List.forall_mem_singleton.2 ⟨?_, ?_⟩⟩⟩
    · exact List.forall_mem_singleton.2 threadFits
    · exact fun id none => by cases none
    · exact fun ch none => by cases none
    · exact List.forall_mem_singleton.2 rfl
  exact (guildDelete_leavesOnly .all calls .epoch ⟨1, false, none⟩).2 ⟨p, planned⟩

/--
A thread that names another guild outlives its parent, and so does a thread member that was filed
under a channel. The deletion of the channel takes both.
-/
theorem guildDelete_leaves_orphans :
    let channel : Channel := .text { id := 10, guildId := 0, name := "" }
    let parent : Channel := channel.inGuild 1
    let thread : ThreadChannel :=
      { id := 11, guildId := 2, parentId := 10, kind := .publicThread, name := "" }
    let member : ThreadMember := { threadId := 10, userId := 5 }
    let c := session .all [
      .handle .epoch (.guildCreate
        { guild := { id := 1, name := "", ownerId := 9 }, channels := [channel] }),
      .handle .epoch (.threadCreate ⟨thread, true, none⟩),
      .handle .epoch (.threadMemberUpdate ⟨member, 1⟩)]
    let c' := (c.apply .epoch (.guildDelete ⟨1, false, none⟩)).1
    let gone := (c.apply .epoch (.channelDelete { current := parent })).1
    Evicted c c' thread.parentId ∧ c'.channels.get? 11 = some (.thread thread) ∧
      c'.threadMembers.get? 10 5 = some member ∧
      gone.channels.get? 11 = none ∧ gone.threadMembers.get? 10 5 = none := by
  intro channel parent thread member c c' gone
  refine ⟨⟨⟨parent, ?_⟩, ?_⟩, ?_, ?_, ?_, ?_⟩
  all_goals decide

end Cache

end GatewayCache
