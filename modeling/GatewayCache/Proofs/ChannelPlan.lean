import GatewayCache.Proofs.ChannelLookup
import GatewayCache.Proofs.Session

/-!
Sessions that keep channels where they are. If every channel that is stored is of the guild and the
kind that a plan gives its id, if threads are in the guild of their parent, and if thread members
are filed under threads only, then so are all that are cached.
-/
namespace GatewayCache

/-- The guild that each channel id belongs to, and whether it is the id of a thread. -/
structure ChannelPlan where
  guildOf : Snowflake → Snowflake
  isThread : Snowflake → Bool

namespace ChannelPlan

/-- The channel is of its id's guild and kind, and a thread is in the guild of its parent. -/
structure Fits (p : ChannelPlan) (ch : Channel) : Prop where
  guild : ch.guildId = p.guildOf ch.id
  kind : ch.isThread = p.isThread ch.id
  parent : ∀ parentId, ch.thread?.map (·.parentId) = some parentId →
    p.guildOf parentId = p.guildOf ch.id

theorem Fits.of_samePlace {p : ChannelPlan} {ch ch' : Channel} (fits : p.Fits ch)
    (same : ch.SamePlace ch') : p.Fits ch' := by
  have isThread (ch : Channel) : ch.isThread = (ch.thread?.map (·.parentId)).isSome := by
    cases ch <;> rfl
  constructor
  · rw [same.guildId, same.id, fits.guild]
  · rw [isThread, same.parent, ← isThread, same.id, fits.kind]
  · rw [same.parent, same.id]
    exact fits.parent

end ChannelPlan

/-- The ids under which an event files thread members. -/
def Event.memberThreads : Event → List Snowflake
  | .threadCreate o => (o.member.map fun _ => o.thread.id).toList
  | .threadListSync s => s.members.map (·.threadId)
  | .threadMemberUpdate m => [m.member.threadId]
  | .threadMembersUpdate a => a.added.map fun _ => a.id
  | _ => []

/-- The call stores only channels that fit, and thread members only under ids of threads. -/
def Call.Follows (p : ChannelPlan) : Call → Prop
  | .handle _ e => (∀ ch ∈ e.storedChannels, p.Fits ch) ∧ ∀ id ∈ e.memberThreads, p.isThread id
  | .addChannel ch => p.Fits ch
  | .add .threadMembers (m : ThreadMember) => p.isThread m.threadId
  | _ => True

/-- What is found after values are filed is one of them, or was there before. -/
theorem GroupedStore.addAll_origin {V : Type} [Filed V] {s : GroupedStore V} {values : List V}
    {g id : Snowflake} {v : V} (found : (s.addAll values).get? g id = some v) :
    (v ∈ values ∧ Filed.owner? v = some g) ∨ s.get? g id = some v := by
  rw [get?_addAll] at found
  split at found
  next =>
    rcases Option.or_eq_some_iff.1 found with new | ⟨-, before⟩
    · obtain ⟨member, filed⟩ := of_findRev?_eq_some new
      rw [Bool.and_eq_true, beq_iff_eq, beq_iff_eq] at filed
      exact .inl ⟨member, filed.1⟩
    · exact .inr before
  next => cases found

namespace Cache

variable {c c' : Cache} {id : Snowflake}

/-- A thread member is found because the event filed one in the thread, or was there before. -/
theorem threadMember_origin {now : Timestamp} {e : Event} {user : Snowflake} {m : ThreadMember}
    (found : (c.threadMembersAfter now e).get? id user = some m) :
    id ∈ e.memberThreads ∨ c.threadMembers.get? id user = some m := by
  have filed {values : List ThreadMember} (listed : ∀ v ∈ values, v.threadId ∈ e.memberThreads)
      (found : (c.threadMembers.addAll values).get? id user = some m) :
      id ∈ e.memberThreads ∨ c.threadMembers.get? id user = some m := by
    rcases GroupedStore.addAll_origin found with ⟨member, owner⟩ | before
    · obtain rfl : m.threadId = id := Option.some.inj owner
      exact .inl (listed m member)
    · exact .inr before
  cases e
  case guildDelete r => exact .inr (GroupedStore.found_of_eraseIf found)
  case channelUpdate u => exact .inr (GroupedStore.found_of_eraseIf found)
  case channelDelete d => exact .inr (GroupedStore.found_of_eraseIf found)
  case threadDelete d => exact .inr (GroupedStore.found_of_eraseIf found)
  case threadCreate o =>
    refine filed (fun v member => ?_) found
    obtain ⟨m, sent, rfl⟩ := Option.map_eq_some_iff.1 (Option.mem_toList.1 member)
    exact Option.mem_toList.2 (Option.map_eq_some_iff.2 ⟨m, sent, rfl⟩)
  case threadListSync s => exact filed (fun v member => List.mem_map.2 ⟨v, member, rfl⟩) found
  case threadMemberUpdate own =>
    have listed : ∀ v ∈ [own.member], v.threadId ∈ (Event.threadMemberUpdate own).memberThreads :=
      List.forall_mem_singleton.2 (List.mem_singleton.2 rfl)
    exact filed listed found
  case threadMembersUpdate a =>
    -- Who joins and leaves in one event is not found, but may be.
    rw [threadMembersAfter, GroupedStore.snd_takeAll] at found
    refine filed (fun v member => ?_) (GroupedStore.found_of_eraseIf found)
    obtain ⟨placed, arrived, rfl⟩ := List.mem_map.1 member
    obtain ⟨sent, joined, rfl⟩ := List.mem_map.1 arrived
    exact List.mem_map.2 ⟨sent, joined, rfl⟩
  all_goals exact .inr found

/-- All channels fit, and thread members are only under ids of threads. -/
structure Follows (p : ChannelPlan) (c : Cache) : Prop where
  channels : ∀ id ch, c.channels.get? id = some ch → p.Fits ch
  threadMembers : ∀ id user m, c.threadMembers.get? id user = some m → p.isThread id

variable {p : ChannelPlan}

/-- Where nothing is new, everything still follows the plan. -/
theorem Follows.of_old (follows : c.Follows p)
    (channels : ∀ id ch, c'.channels.get? id = some ch → c.channels.get? id = some ch)
    (threadMembers : ∀ id user m, c'.threadMembers.get? id user = some m →
      c.threadMembers.get? id user = some m) : c'.Follows p where
  channels id ch found := follows.channels id ch (channels id ch found)
  threadMembers id user m found := follows.threadMembers id user m (threadMembers id user m found)

theorem Follows.apply (follows : c.Follows p) (now : Timestamp) {e : Event}
    (planned : (Call.handle now e).Follows p) : (c.apply now e).1.Follows p := by
  obtain ⟨channels, threads⟩ := planned
  constructor
  · intro id ch found
    rw [channels_apply] at found
    rcases channel_origin found with ⟨stored, -⟩ | ⟨old, before, rfl⟩
    · exact channels ch stored
    · exact (follows.channels id old before).of_samePlace (e.samePlace_editChannel id old)
  · intro id user m found
    rw [threadMembers_apply] at found
    rcases threadMember_origin found with filed | before
    · exact threads id filed
    · exact follows.threadMembers id user m before

theorem Follows.withStore (follows : c.Follows p) (k : Shelf) {s : GroupedStore k.Entity}
    (old : ∀ g id v, s.get? g id = some v → (k.store c).get? g id = some v) :
    (k.withStore c s).Follows p := by
  cases k
  case threadMembers => exact follows.of_old (fun _ _ found => found) old
  all_goals exact follows.of_old (fun _ _ found => found) fun _ _ _ found => found

theorem Follows.call (follows : c.Follows p) {step : Call} (planned : step.Follows p) :
    (c.call step).Follows p := by
  cases step with
  | handle now e => exact follows.apply now planned
  | addChannel ch =>
    refine ⟨fun id other found => ?_, follows.threadMembers⟩
    rw [Cache.call, addChannel, Store.get?_put] at found
    split at found
    · cases found
      exact planned
    · exact follows.channels id other found
  | removeChannel id =>
    refine follows.of_old (fun key ch found => ?_) fun _ _ _ found => found
    rw [Cache.call, Store.erase_eq_eraseIf] at found
    exact Store.found_of_eraseIf found
  | removeChannelsOf guildId =>
    refine follows.of_old (fun key ch found => ?_) fun _ _ _ found => found
    rw [Cache.call, Store.snd_takeGuild_eq] at found
    exact Store.found_of_eraseIf found
  | add k value =>
    cases k
    case threadMembers =>
      refine ⟨follows.channels, fun id user m found => ?_⟩
      have filed : (c.threadMembers.add value).get? id user = some m := found
      rw [GroupedStore.get?_add] at filed
      split at filed
      next here =>
        obtain rfl : value.threadId = id := Option.some.inj here.2.1
        exact planned
      next => exact follows.threadMembers id user m filed
    all_goals exact follows.of_old (fun _ _ found => found) fun _ _ _ found => found
  | remove k owner id =>
    refine follows.withStore k fun g key v found => ?_
    rw [GroupedStore.erase_eq_eraseIf] at found
    exact GroupedStore.found_of_eraseIf found
  | removeGroup k owner =>
    refine follows.withStore k fun g key v found => ?_
    rw [GroupedStore.eraseGroup_eq_eraseIf] at found
    exact GroupedStore.found_of_eraseIf found
  | removeIf k drop => exact follows.withStore k fun g key v => GroupedStore.found_of_eraseIf
  -- The other calls leave channels and thread members alone.
  | setSelf user => exact follows.of_old (fun _ _ found => found) fun _ _ _ found => found
  | addGuild g => exact follows.of_old (fun _ _ found => found) fun _ _ _ found => found
  | removeGuild id => exact follows.of_old (fun _ _ found => found) fun _ _ _ found => found
  | setUnready id on => exact follows.of_old (fun _ _ found => found) fun _ _ _ found => found
  | setUnavailable id on => exact follows.of_old (fun _ _ found => found) fun _ _ _ found => found

theorem Follows.foldl_call (follows : c.Follows p) {calls : List Call}
    (planned : ∀ step ∈ calls, step.Follows p) : (calls.foldl Cache.call c).Follows p := by
  induction calls generalizing c with
  | nil => exact follows
  | cons step calls ih =>
    obtain ⟨first, rest⟩ := List.forall_mem_cons.1 planned
    exact ih (follows.call first) rest

/-- A session that keeps to a plan leads to a cache that does. -/
theorem session_follows (flags : Retention) {calls : List Call}
    (planned : ∀ step ∈ calls, step.Follows p) : (session flags calls).Follows p := by
  have empty : (Cache.empty flags).Follows p := by
    constructor
    · intro id ch found
      cases found
    · intro id user m found
      cases found
  exact empty.foldl_call planned

end Cache

end GatewayCache
