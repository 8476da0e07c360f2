import GatewayCache.Proofs.ChannelLookup
import GatewayCache.Proofs.Invariant

/-!
The counters of a thread over a run that neither stores nor removes it. Messages, their deletions
and attendance edit the stored thread in place, so at the end it is the thread from the start with
the edits of the run in order, and each counter is read off from them.
-/
namespace GatewayCache

namespace Event

variable {t : Snowflake}

/-! ### Runs that leave a thread cached -/

/-- The event stores a channel under the id. -/
def storesChannel (t : Snowflake) (e : Event) : Bool := e.storedChannels.any (·.id == t)

/-- The event removes the channel `ch`, known as `t`: by id, with its guild, or with its parent. -/
def removesChannel (t : Snowflake) (ch : Channel) : Event → Bool
  | .guildDelete r => ch.guildId == r.id
  | .channelDelete d => d.current.id == t || ch.thread?.any (·.parentId == d.current.id)
  | .channelUpdate u => ch.thread?.any (·.parentId == u.current.id)
  | .threadDelete r => r.id == t
  | _ => false

theorem removesChannel_of_samePlace {ch ch' : Channel} (same : ch.SamePlace ch') (e : Event) :
    e.removesChannel t ch' = e.removesChannel t ch := by
  have parent (id : Snowflake) : ch'.thread?.any (·.parentId == id) =
      ch.thread?.any (·.parentId == id) := by
    have parents := congrArg (Option.any (· == id)) same.parent
    simpa only [Option.any_map] using parents
  cases e
  case guildDelete r => simp only [removesChannel, same.guildId]
  case channelDelete d => simp only [removesChannel, parent]
  case channelUpdate u => exact parent u.current.id
  all_goals rfl

/-! ### What is counted -/

/-- The message that the event sends to the channel. -/
def sentIn? (t : Snowflake) : Event → Option Snowflake
  | .messageCreate m => if t = m.channelId then some m.id else none
  | _ => none

/-- The number of messages that the event deletes from the channel, cached or not. -/
def deletedIn (t : Snowflake) : Event → Nat
  | .messageDelete r => if t = r.channelId then 1 else 0
  | .messageDeleteBulk r => if t = r.channelId then r.ids.length else 0
  | _ => 0

/-- The number of members that the event gives the thread. -/
def attendance? (t : Snowflake) : Event → Option UInt32
  | .threadMembersUpdate a => if t = a.id then some a.memberCount else none
  | _ => none

/-- The number of messages in the thread after the event, between zero and the largest count. -/
def messageCount (t : Snowflake) (n : Nat) (e : Event) : Nat :=
  if (e.sentIn? t).isSome then min (n + 1) maxCount else n - e.deletedIn t

/-- What the event does in place to the thread. -/
def editThread (t : Snowflake) : Event → ThreadChannel → ThreadChannel
  | .messageCreate m, th =>
    if t = m.channelId then { th with lastMessageId := some m.id }.messageSent else th
  | .messageDelete r, th => if t = r.channelId then th.messagesDeleted 1 else th
  | .messageDeleteBulk r, th => if t = r.channelId then th.messagesDeleted r.ids.length else th
  | .channelPinsUpdate p, th => if t = p.channelId then { th with lastPin := p.lastPin } else th
  | .threadMembersUpdate a, th => if t = a.id then { th with memberCount := a.memberCount } else th
  | _, th => th

theorem editChannel_thread (e : Event) (th : ThreadChannel) :
    e.editChannel t (.thread th) = .thread (e.editThread t th) := by
  cases e
  case messageCreate m => exact (apply_ite Channel.thread ..).symm
  case messageDelete r => exact (apply_ite Channel.thread ..).symm
  case messageDeleteBulk r => exact (apply_ite Channel.thread ..).symm
  case channelPinsUpdate p => exact (apply_ite Channel.thread ..).symm
  case threadMembersUpdate a => exact (apply_ite Channel.thread ..).symm
  all_goals rfl

/-! ### One edit -/

/-- How the event takes the thread `th` to `th'`, as far as counters go. -/
structure Counts (t : Snowflake) (e : Event) (th th' : ThreadChannel) : Prop where
  total : th'.totalMessageSent.toNat =
    if (e.sentIn? t).isSome then min (th.totalMessageSent.toNat + 1) maxCount
    else th.totalMessageSent.toNat
  messages : th'.messageCount.toNat = e.messageCount t th.messageCount.toNat
  members : th'.memberCount = (e.attendance? t).getD th.memberCount
  last : th'.lastMessageId = (e.sentIn? t).or th.lastMessageId

theorem counts_editThread (e : Event) (th : ThreadChannel) : e.Counts t th (e.editThread t th) := by
  cases e
  case messageCreate m =>
    by_cases here : t = m.channelId
    · constructor <;>
        simp [editThread, here, messageCount, sentIn?, attendance?, ThreadChannel.messageSent]
    · constructor <;> simp [editThread, here, messageCount, sentIn?, deletedIn, attendance?]
  case messageDelete r =>
    by_cases here : t = r.channelId <;> constructor <;>
      simp [editThread, here, messageCount, sentIn?, deletedIn, attendance?,
        ThreadChannel.messagesDeleted]
  case messageDeleteBulk r =>
    by_cases here : t = r.channelId <;> constructor <;>
      simp [editThread, here, messageCount, sentIn?, deletedIn, attendance?,
        ThreadChannel.messagesDeleted]
  case channelPinsUpdate p =>
    -- Whatever the time of the last pin is, no counter depends on it.
    rw [editThread]
    split <;> exact ⟨rfl, rfl, rfl, rfl⟩
  case threadMembersUpdate a =>
    by_cases here : t = a.id <;> constructor <;>
      simp [editThread, here, messageCount, sentIn?, deletedIn, attendance?]
  all_goals exact ⟨rfl, rfl, rfl, rfl⟩

/-- More messages were ever sent than are there, before and after. -/
theorem Counts.le {e : Event} {th th' : ThreadChannel} (counts : e.Counts t th th')
    (le : th.messageCount ≤ th.totalMessageSent) : th'.messageCount ≤ th'.totalMessageSent := by
  rw [UInt32.le_iff_toNat_le] at le ⊢
  rw [counts.total, counts.messages, messageCount]
  split <;> omega

end Event

namespace Cache

variable {t : Snowflake} {c : Cache} {e : Event}

/--
The event neither stores nor removes channel `t`. A channel that is found under another id than its
own is known by both.
-/
def SparesChannel (t : Snowflake) (c : Cache) (e : Event) : Prop :=
  e.storesChannel t = false ∧
    ∀ id ch, c.channels.get? id = some ch → id = t ∨ ch.id = t → e.removesChannel t ch = false

/-- In a session every channel is in its place, so only channel `t` itself is to be spared. -/
theorem Sound.sparesChannel {flags : Retention} (sound : c.Sound flags) {ch : Channel}
    (cached : c.channels.get? t = some ch) (unstored : e.storesChannel t = false)
    (unremoved : e.removesChannel t ch = false) : c.SparesChannel t e := by
  refine ⟨unstored, fun id other found known => ?_⟩
  have own := sound.channels.inPlace id other found
  have same : id = t := by
    rcases known with same | named
    · exact same
    · exact own.symm.trans named
  rw [same, cached] at found
  cases found
  exact unremoved

theorem SparesChannel.ne_of_stored (spares : c.SparesChannel t e) {ch : Channel}
    (stored : ch ∈ e.storedChannels) : ch.id ≠ t := by
  have none := List.any_eq_false.1 spares.1 ch stored
  simpa using none

/-- A child of a channel that the event deletes or updates is not channel `t`. -/
theorem SparesChannel.ne_of_child (spares : c.SparesChannel t e) {parent : Snowflake}
    (reaches : ∀ ch : Channel, ch.thread?.any (·.parentId == parent) → e.removesChannel t ch)
    {th : ThreadChannel} (child : th ∈ c.channels.threadsIn parent) : th.id ≠ t := by
  obtain ⟨⟨id, found⟩, same⟩ := Store.mem_threadsIn.1 child
  intro own
  have spared := spares.2 id _ found (.inr own)
  have removed := reaches (.thread th) (by simp [Channel.thread?, same])
  rw [spared] at removed
  cases removed

/-- A spared channel is not evicted. -/
theorem SparesChannel.dropsChannel (spares : c.SparesChannel t e) (now : Timestamp) {ch : Channel}
    (cached : c.channels.get? t = some ch) :
    c.dropsChannel now e t (e.editChannel t ch) = false := by
  have own := spares.2 t ch cached (.inl rfl)
  cases e
  case guildDelete r =>
    -- The channels of the guild go by the ids that they name, wherever they are found.
    have listed : ((c.channels.ofGuild r.id).map (·.id)).contains t = false := by
      rw [List.contains_eq_mem, decide_eq_false_iff_not]
      intro member
      obtain ⟨other, inGuild, same⟩ := List.mem_map.1 member
      obtain ⟨stored, ofGuild⟩ := List.mem_filter.1 inGuild
      obtain ⟨id, found⟩ := Store.mem_values.1 stored
      have spared := spares.2 id other found (.inr same)
      exact absurd ofGuild (Bool.not_eq_true _ ▸ spared)
    exact Bool.or_eq_false_iff.2 ⟨listed, own⟩
  case channelUpdate u =>
    have listed : t ∉ c.evictedBy now (.channelUpdate u) := by
      intro member
      obtain ⟨th, hidden, same⟩ := List.mem_map.1 member
      obtain ⟨-, -, child⟩ := (mem_hiddenThreads now).1 hidden
      obtain ⟨⟨id, found⟩, parent⟩ := Store.mem_threadsIn.1 child
      -- The parent is looked for among its own threads, so it may be stored as its own child.
      rw [addChannel, Store.get?_put] at found
      split at found
      · have stored : u.current ∈ (Event.channelUpdate u).storedChannels := List.mem_singleton.2 rfl
        have other := spares.ne_of_stored stored
        rw [Option.some.inj found] at other
        exact other same
      · have below := Store.mem_threadsIn.2 ⟨⟨id, found⟩, parent⟩
        exact spares.ne_of_child (fun _ reached => reached) below same
    simpa [Cache.dropsChannel] using listed
  case channelDelete d =>
    obtain ⟨other, -⟩ := Bool.or_eq_false_iff.1 own
    have listed : t ∉ c.evictedBy now (.channelDelete d) := by
      intro member
      rcases List.mem_cons.1 member with same | below
      · exact beq_eq_false_iff_ne.1 other same.symm
      · obtain ⟨th, left, same⟩ := List.mem_map.1 below
        obtain ⟨⟨id, found⟩, parent⟩ := Store.mem_threadsIn.1 left
        have found' : c.channels.get? id = some (.thread th) := by
          rw [evictChannel, Store.get?_erase] at found
          split at found
          · cases found
          · exact found
        have child := Store.mem_threadsIn.2 ⟨⟨id, found'⟩, parent⟩
        exact spares.ne_of_child (fun _ reached => Bool.or_eq_true_iff.2 (.inr reached)) child same
    simpa [Cache.dropsChannel] using listed
  case threadDelete r =>
    have other : t ≠ r.id := fun same => beq_eq_false_iff_ne.1 own same.symm
    simpa [Cache.dropsChannel, evictedBy] using other
  all_goals rfl

/-- A spared thread stays, with what the event edits in place. -/
theorem SparesChannel.thread_apply (spares : c.SparesChannel t e) (now : Timestamp)
    {th : ThreadChannel} (cached : c.channels.get? t = some (.thread th)) :
    (c.apply now e).1.channels.get? t = some (.thread (e.editThread t th)) := by
  have stays := channel_stays cached (fun ch stored => spares.ne_of_stored stored)
    (spares.dropsChannel now cached)
  rw [channels_apply, stays, Event.editChannel_thread]

/-- What spares a channel still does after an event that spares it too. -/
theorem SparesChannel.apply (spares : c.SparesChannel t e) (now : Timestamp) {later : Event}
    (next : c.SparesChannel t later) : (c.apply now e).1.SparesChannel t later := by
  refine ⟨next.1, fun id ch found known => ?_⟩
  rw [channels_apply] at found
  rcases channel_origin found with ⟨stored, own⟩ | ⟨old, before, rfl⟩
  · -- What is stored now is stored under its own id, which is another one.
    have other := spares.ne_of_stored stored
    rcases known with same | same
    · exact absurd (own.trans same) other
    · exact absurd same other
  · have place := e.samePlace_editChannel id old
    rw [Event.removesChannel_of_samePlace place]
    rw [place.id] at known
    exact next.2 id old before known

/-! ### Runs -/

/--
A cached thread that a run neither stores nor removes stays cached. Its counters are those from
the start with the messages and deletions of the run counted one by one, within bounds, and the
last attendance and the last message are those that the run brings last, if it brings any.
-/
theorem threadCounters_applyAll (c : Cache) (t : Snowflake) (start : ThreadChannel)
    (cached : c.channels.get? t = some (.thread start)) (run : List (Timestamp × Event))
    (spares : ∀ x ∈ run, c.SparesChannel t x.2) :
    ∃ last, (c.applyAll run).channels.get? t = some (.thread last) ∧
      last.totalMessageSent.toNat = min
        (start.totalMessageSent.toNat + run.countP fun x => (x.2.sentIn? t).isSome) maxCount ∧
      last.messageCount.toNat =
        run.foldl (fun n x => x.2.messageCount t n) start.messageCount.toNat ∧
      last.memberCount = (run.reverse.findSome? (·.2.attendance? t)).getD start.memberCount ∧
      last.lastMessageId = (run.reverse.findSome? (·.2.sentIn? t)).or start.lastMessageId ∧
      (start.messageCount ≤ start.totalMessageSent →
        last.messageCount ≤ last.totalMessageSent) := by
  -- Each event takes the thread one edit further and spares the channel for those that follow.
  induction run generalizing c start with
  | nil =>
    have bounded : start.totalMessageSent.toNat ≤ maxCount :=
      Nat.le_pred_of_lt start.totalMessageSent.toNat_lt
    exact ⟨start, cached, (Nat.min_eq_left bounded).symm, rfl, rfl, rfl, id⟩
  | cons x run ih =>
    obtain ⟨here, rest⟩ := List.forall_mem_cons.1 spares
    have counts := x.2.counts_editThread (t := t) start
    obtain ⟨last, kept, total, messages, members, message, le⟩ :=
      ih (c.apply x.1 x.2).1 (x.2.editThread t start) (here.thread_apply x.1 cached)
        fun y member => here.apply x.1 (rest y member)
    refine ⟨last, kept, ?_, ?_, ?_, ?_, ?_⟩
    · -- A clamp on the way makes no difference to the clamp at the end.
      rw [total, counts.total, List.countP_cons]
      split <;> omega
    · rw [messages, counts.messages, List.foldl_cons]
    · rw [members, counts.members, List.reverse_cons, List.findSome?_append,
        List.findSome?_singleton]
      cases run.reverse.findSome? (·.2.attendance? t) <;> rfl
    · rw [message, counts.last, List.reverse_cons, List.findSome?_append,
        List.findSome?_singleton, Option.or_assoc]
    · exact fun before => le (counts.le before)

/-- A message comes, and more are deleted together than are there. -/
theorem threadCounters_applyAll_of_bulk :
    let thread : ThreadChannel :=
      { id := 5, guildId := 1, parentId := 9, kind := .publicThread, name := "", messageCount := 2
        totalMessageSent := 2 }
    let message : Message :=
      { id := 4, channelId := 5, guildId := some 1, author := { id := 9, username := "" }
        content := "", timestamp := .epoch }
    let c := session .all [.addChannel (.thread thread)]
    let run : List (Timestamp × Event) := [
      (.epoch, .messageCreate message),
      (.epoch, .messageDeleteBulk ⟨[4, 4, 6, 7], 5, none, []⟩),
      (.epoch, .threadMembersUpdate ⟨5, 1, 3, [], [], []⟩),
      (.epoch, .guildDelete ⟨2, false, none⟩)]
    ∃ last, (c.applyAll run).channels.get? 5 = some (.thread last) ∧
      last.totalMessageSent.toNat = 3 ∧ last.messageCount.toNat = 0 ∧ last.memberCount = 3 ∧
      last.lastMessageId = some 4 ∧ last.messageCount ≤ last.totalMessageSent := by
  intro thread message c run
  have sound : c.Sound .all := session_sound .all _
  have cached : c.channels.get? 5 = some (.thread thread) := by decide
  have spares : ∀ x ∈ run, c.SparesChannel 5 x.2 := by
    have apart : ∀ x ∈ run,
        x.2.storesChannel 5 = false ∧ x.2.removesChannel 5 (.thread thread) = false := by decide
    intro x member
    exact sound.sparesChannel cached (apart x member).1 (apart x member).2
  obtain ⟨last, kept, total, messages, members, message, le⟩ :=
    threadCounters_applyAll c 5 thread cached run spares
  exact ⟨last, kept, total, messages, members, message, le (by decide)⟩

end Cache

end GatewayCache
