import GatewayCache.Proofs.Session
import GatewayCache.Proofs.Transition

/-!
Bulk events. An event about many entities does what events about one of them each do in turn,
whether or not entities repeat or are cached, and it reports what those report.
-/
namespace GatewayCache

/-! ### Counting down -/

namespace ThreadChannel

theorem messagesDeleted_zero (t : ThreadChannel) : t.messagesDeleted 0 = t := by
  have same : countDown 0 t.messageCount = t.messageCount := by
    apply UInt32.toNat_inj.1
    rw [toNat_countDown, Nat.sub_zero]
  rw [messagesDeleted, same]

theorem messagesDeleted_messagesDeleted (first second : Nat) (t : ThreadChannel) :
    (t.messagesDeleted first).messagesDeleted second = t.messagesDeleted (first + second) := by
  have total : countDown second (countDown first t.messageCount) =
      countDown (first + second) t.messageCount := by
    apply UInt32.toNat_inj.1
    simp only [toNat_countDown, Nat.sub_sub]
  simp only [messagesDeleted, total]

end ThreadChannel

/-! ### Runs -/

/-- The message that a deletion comes back with. -/
def Event.oldMessage? : Event → Option Message
  | .messageDelete r => r.oldMessage
  | _ => none

namespace Cache

/-- What comes back of events that are applied in order. -/
def replies (c : Cache) : List (Timestamp × Event) → List Event
  | [] => []
  | e :: run => (c.apply e.1 e.2).2 :: (c.apply e.1 e.2).1.replies run

theorem applyAll_append (c : Cache) (run run' : List (Timestamp × Event)) :
    c.applyAll (run ++ run') = (c.applyAll run).applyAll run' :=
  List.foldl_append

/-- Events that each file one entity on a shelf file them all. -/
theorem applyAll_filing {α : Type} (k : Shelf) (event : α → Event) (entity : α → k.Entity)
    (each : ∀ (now : Timestamp) (c : Cache) (a : α),
      (c.apply now (event a)).1 = k.withStore c ((k.store c).add (entity a)))
    (c : Cache) (run : List (Timestamp × α)) :
    c.applyAll (run.map fun x => (x.1, event x.2)) =
      k.withStore c ((k.store c).addAll (run.map fun x => entity x.2)) := by
  induction run generalizing c with
  | nil => cases k <;> rfl
  | cons x run ih =>
    have later := ih (c.apply x.1 (event x.2)).1
    rw [each] at later
    refine (congrArg (applyAll · _) (each x.1 c x.2)).trans (later.trans ?_)
    cases k <;> rfl

/-- Changed threads are kept as channels. -/
theorem applyAll_threadUpdates (c : Cache) (run : List (Timestamp × Change ThreadChannel)) :
    c.applyAll (run.map fun x => (x.1, .threadUpdate x.2)) = { c with
      channels := c.channels.putAll Channel.id (run.map fun x => .thread x.2.current) } := by
  rw [← foldl_addChannel, applyAll, List.foldl_map, List.foldl_map]
  rfl

/-! ### Deletions -/

section Deletions

variable {channelId : Snowflake}

/-- Deleting messages of a channel in turn removes them all and counts them all. -/
theorem applyAll_deletions (c : Cache) {run : List (Timestamp × MessageRemoval)}
    (within : ∀ x ∈ run, x.2.channelId = channelId) :
    c.applyAll (run.map fun x => (x.1, .messageDelete x.2)) = { c with
      messages := (c.messages.takeAll channelId (run.map (·.2.id))).2
      channels := c.channels.modify channelId (.mapThread (.messagesDeleted run.length)) } := by
  induction run generalizing c with
  | nil =>
    have same : c.channels.modify channelId (.mapThread (.messagesDeleted 0)) = c.channels :=
      Store.modify_eq_self fun ch _ => ch.mapThread_eq_self ThreadChannel.messagesDeleted_zero
    rw [List.length_nil, same]
    rfl
  | cons x run ih =>
    obtain ⟨now, r⟩ := x
    obtain ⟨rfl, rest⟩ := List.forall_mem_cons.1 within
    refine (ih (c.apply now (.messageDelete r)).1 rest).trans ?_
    -- The first deletion takes one from the count, and the others what is left to take.
    have counted : (c.apply now (.messageDelete r)).1.channels.modify r.channelId
          (.mapThread (.messagesDeleted run.length)) =
        c.channels.modify r.channelId (.mapThread (.messagesDeleted (run.length + 1))) := by
      simp only [channels_apply, channelsAfter, Store.modify_modify, Channel.mapThread_mapThread,
        ThreadChannel.messagesDeleted_messagesDeleted, Nat.add_comm]
    rw [counted]
    rfl

/-- Deletions in turn report the messages that were there, each with its first deletion. -/
theorem oldMessages_replies (c : Cache) {run : List (Timestamp × MessageRemoval)}
    (within : ∀ x ∈ run, x.2.channelId = channelId) :
    (c.replies (run.map fun x => (x.1, .messageDelete x.2))).filterMap Event.oldMessage? =
      (c.messages.takeAll channelId (run.map (·.2.id))).1 := by
  induction run generalizing c with
  | nil => rfl
  | cons x run ih =>
    obtain ⟨now, r⟩ := x
    obtain ⟨rfl, rest⟩ := List.forall_mem_cons.1 within
    have later := ih (c.apply now (.messageDelete r)).1 rest
    rw [messages_apply] at later
    have first : Event.oldMessage? (c.apply now (.messageDelete r)).2 =
        c.messages.get? r.channelId r.id := rfl
    rw [List.map_cons, replies, List.filterMap_cons, first, later]
    cases found : c.messages.get? r.channelId r.id with
    | none => simp only [List.map_cons, GroupedStore.takeAll, found, Option.toList_none]; rfl
    | some m => simp only [List.map_cons, GroupedStore.takeAll, found, Option.toList_some]; rfl

end Deletions

/-! ### Many at once -/

/--
Whatever the cache holds, a bulk event and events about its entities in turn, at whatever times and
whatever else they say, lead to the same: deletions of messages of a channel, which also report the
same messages; members and then presences of a guild; threads of a guild and then thread members.
-/
theorem bulk_eq_singles (c : Cache) (now : Timestamp) :
    (∀ (bulk : BulkRemoval) (deletions : List (Timestamp × MessageRemoval)),
      deletions.map (·.2.id) = bulk.ids → (∀ x ∈ deletions, x.2.channelId = bulk.channelId) →
      let run := deletions.map fun x => (x.1, Event.messageDelete x.2)
      c.apply now (.messageDeleteBulk bulk) = (c.applyAll run, .messageDeleteBulk { bulk with
        oldMessages := (c.replies run).filterMap Event.oldMessage? })) ∧
    (∀ (chunk : MemberChunk) (members : List (Timestamp × Change Member))
        (presences : List (Timestamp × Change Presence)),
      members.map (·.2.current) = chunk.members.map (fun m => { m with guildId := chunk.guildId }) →
      presences.map (·.2.current) =
        chunk.presences.map (fun p => { p with guildId := chunk.guildId }) →
      (c.apply now (.guildMembersChunk chunk)).1 = c.applyAll
        (members.map (fun x => (x.1, .guildMemberUpdate x.2)) ++
          presences.map fun x => (x.1, .presenceUpdate x.2))) ∧
    ∀ (sync : ThreadSync) (threads : List (Timestamp × Change ThreadChannel))
        (memberships : List (Timestamp × OwnMembership)),
      threads.map (·.2.current) = sync.threads.map (fun t => { t with guildId := sync.guildId }) →
      memberships.map (·.2.member) = sync.members →
      (c.apply now (.threadListSync sync)).1 = c.applyAll
        (threads.map (fun x => (x.1, .threadUpdate x.2)) ++
          memberships.map fun x => (x.1, .threadMemberUpdate x.2)) := by
  refine ⟨?_, ?_, ?_⟩
  · intro bulk deletions ids within run
    have state := c.applyAll_deletions within
    have reported := c.oldMessages_replies within
    have length : deletions.length = bulk.ids.length := by rw [← ids, List.length_map]
    rw [ids] at state reported
    rw [state, reported, length]
    rfl
  · intro chunk members presences memberList presenceList
    have first := applyAll_filing .members Event.guildMemberUpdate (·.current) (fun _ _ _ => rfl)
      c members
    have second := applyAll_filing .presences Event.presenceUpdate (·.current) (fun _ _ _ => rfl)
    rw [applyAll_append, first, second, memberList, presenceList]
    rfl
  · intro sync threads memberships threadList memberList
    have first := c.applyAll_threadUpdates threads
    have second := applyAll_filing .threadMembers Event.threadMemberUpdate (·.member)
      (fun _ _ _ => rfl)
    have channels : threads.map (fun x => Channel.thread x.2.current) =
        sync.threads.map fun t => Channel.thread { t with guildId := sync.guildId } := by
      have placed := congrArg (List.map Channel.thread) threadList
      simp only [List.map_map] at placed
      exact placed
    rw [applyAll_append, first, second, memberList, channels]
    simp only [apply, syncThreads, addThreads_eq]
    rfl

/-- A message deleted twice in a thread is reported once, and one that was not cached not at all. -/
theorem bulk_eq_singles_repeated :
    let thread : ThreadChannel :=
      { id := 5, guildId := 0, parentId := 9, kind := .publicThread, name := "", messageCount := 2 }
    let message : Message :=
      { id := 4, channelId := 5, guildId := some 1, author := { id := 9, username := "" }
        content := "", timestamp := .epoch }
    let c := session .all [
      .handle .epoch (.guildCreate
        { guild := { id := 1, name := "", ownerId := 9 }, threads := [thread] }),
      .handle .epoch (.messageCreate message)]
    let deletions : List (Timestamp × MessageRemoval) :=
      [4, 4, 6].map fun id => (.epoch, ⟨id, 5, none, none⟩)
    c.apply .epoch (.messageDeleteBulk ⟨[4, 4, 6], 5, none, []⟩) =
      (c.applyAll (deletions.map fun x => (x.1, .messageDelete x.2)),
        .messageDeleteBulk ⟨[4, 4, 6], 5, none, [message]⟩) := by
  intro thread message c deletions
  have within : ∀ x ∈ deletions, x.2.channelId = 5 := by decide
  have reported : (c.replies (deletions.map fun x => (x.1, .messageDelete x.2))).filterMap
      Event.oldMessage? = [message] := by decide +kernel
  refine ((bulk_eq_singles c .epoch).1 ⟨[4, 4, 6], 5, none, []⟩ deletions rfl within).trans ?_
  rw [reported]

end Cache

end GatewayCache
