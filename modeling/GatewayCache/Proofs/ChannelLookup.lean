import GatewayCache.Proofs.Transition

/-!
What is found under the id of a channel after an event: the last channel that the event stores under
that id, or else the channel that was there, changed in place, unless the event evicts it. Nothing
is assumed about the state, so a channel may be found under another id than its own.
-/
namespace GatewayCache

namespace Event

/-- The channels that an event stores, in order. -/
def storedChannels : Event → List Channel
  | .guildCreate h => h.placed.channels ++ h.placed.threads.map .thread
  | .channelCreate ch => [ch]
  | .channelUpdate u => [u.current]
  | .threadCreate o => [.thread o.thread]
  | .threadUpdate u => [.thread u.current]
  | .threadListSync s => s.threads.map fun t => .thread { t with guildId := s.guildId }
  | _ => []

/-- What an event does in place to the channel under an id. -/
def editChannel (id : Snowflake) : Event → Channel → Channel
  | .messageCreate m, ch => if id = m.channelId then ch.messageSent m.id else ch
  | .messageDelete r, ch => if id = r.channelId then ch.mapThread (.messagesDeleted 1) else ch
  | .messageDeleteBulk r, ch =>
    if id = r.channelId then ch.mapThread (.messagesDeleted r.ids.length) else ch
  | .channelPinsUpdate p, ch => if id = p.channelId then ch.withLastPin p.lastPin else ch
  | .threadMembersUpdate a, ch =>
    if id = a.id then ch.mapThread fun t => { t with memberCount := a.memberCount } else ch
  | _, ch => ch

end Event

/-- The same channel of the same guild, and the same thread of the same channel if it is one. -/
structure Channel.SamePlace (ch ch' : Channel) : Prop where
  id : ch'.id = ch.id
  guildId : ch'.guildId = ch.guildId
  parent : ch'.thread?.map (·.parentId) = ch.thread?.map (·.parentId)

/-- Messages, pins and counts leave a channel where it is. -/
theorem Event.samePlace_editChannel (id : Snowflake) (e : Event) (ch : Channel) :
    ch.SamePlace (e.editChannel id ch) := by
  have refl : ch.SamePlace ch := ⟨rfl, rfl, rfl⟩
  unfold editChannel
  split
  -- Each of the five edits is one of the channel under its id, and of that alone.
  all_goals try split
  all_goals first
    | exact refl
    | cases ch <;> exact ⟨rfl, rfl, rfl⟩

namespace Store

/-- What is found after several values are put is the last with the id, or what was there. -/
theorem get?_putAll_or {V : Type} (key : V → Snowflake) (s : Store V) (values : List V)
    (id : Snowflake) :
    (s.putAll key values).get? id =
      (if s.retains then values.findRev? fun v => key v == id else none).or (s.get? id) := by
  rw [get?_putAll]
  cases on : s.retains with
  | true => rfl
  | false => simp [get?_of_not_retains on]

end Store

namespace Cache

/-- Whether an event evicts the channel `ch` that is stored under `id`. -/
def dropsChannel (now : Timestamp) (c : Cache) (e : Event) (id : Snowflake) (ch : Channel) : Bool :=
  match e with
  | .guildDelete r =>
    ((c.channels.ofGuild r.id).map (·.id)).contains id || ch.guildId == r.id
  | _ => (c.evictedBy now e).contains id

theorem mem_hiddenThreads (now : Timestamp) {c : Cache} {ch : Channel} {t : ThreadChannel} :
    t ∈ c.hiddenThreads now ch ↔
      ch.hidesThreads = true ∧ c.hidesFromSelf now ch = true ∧ t ∈ c.channels.threadsIn ch.id := by
  rw [hiddenThreads, threadsIn]
  cases ch.hidesThreads <;> cases c.hidesFromSelf now ch <;> simp

variable (now : Timestamp) (c : Cache) (e : Event) (id : Snowflake)

theorem get?_channelsAfter :
    (c.channelsAfter now e).get? id =
      ((if c.channels.retains then e.storedChannels.findRev? (·.id == id) else none).or
        ((c.channels.get? id).map (e.editChannel id))).filter
          fun ch => !c.dropsChannel now e id ch := by
  have stored (values : List Channel) := c.channels.get?_putAll_or Channel.id values id
  have edited (key : Snowflake) (f : Channel → Channel) :
      (c.channels.modify key f).get? id =
        (c.channels.get? id).map fun ch => if id = key then f ch else ch := by
    rw [Store.get?_modify]
    split
    · rfl
    · exact (Option.map_id' ..).symm
  have unedited : (c.channels.get? id).map (fun ch => ch) = c.channels.get? id := Option.map_id' ..
  -- The right side for an event that stores nothing, evicts nothing, or edits nothing.
  have nothing (old : Option Channel) :
      (if c.channels.retains then none else none : Option Channel).or old = old := by
    rw [ite_self, Option.none_or]
  have spared (old : Option Channel) : old.filter (fun _ => !false) = old := by cases old <;> rfl
  have changed (old : Option Channel) :
      ((if c.channels.retains then none else none : Option Channel).or old).filter
        (fun _ => !false) = old := by rw [nothing, spared]
  have added (new : Option Channel) :
      (new.or ((c.channels.get? id).map fun ch => ch)).filter (fun _ => !false) =
        new.or (c.channels.get? id) := by rw [unedited, spared]
  have left (keep : Channel → Bool) :
      ((if c.channels.retains then none else none : Option Channel).or
        ((c.channels.get? id).map fun ch => ch)).filter keep =
          (c.channels.get? id).filter keep := by rw [nothing, unedited]
  cases e
  case messageCreate m => exact (edited m.channelId _).trans (changed _).symm
  case messageDelete r => exact (edited r.channelId _).trans (changed _).symm
  case messageDeleteBulk r => exact (edited r.channelId _).trans (changed _).symm
  case channelPinsUpdate p => exact (edited p.channelId _).trans (changed _).symm
  case threadMembersUpdate a => exact (edited a.id _).trans (changed _).symm
  case guildCreate h => exact (stored _).trans (added _).symm
  case channelCreate ch => exact (stored [ch]).trans (added _).symm
  case threadCreate o => exact (stored [.thread o.thread]).trans (added _).symm
  case threadUpdate u => exact (stored [.thread u.current]).trans (added _).symm
  case threadListSync s => exact (stored _).trans (added _).symm
  case guildDelete r =>
    rw [channelsAfter, Store.snd_takeGuild_eq, Store.get?_eraseIf]
    exact (left _).symm
  case channelDelete d => exact (Store.get?_eraseIf ..).trans (left _).symm
  case threadDelete d => exact (Store.get?_eraseIf ..).trans (left _).symm
  case channelUpdate u =>
    -- The changed channel is stored before the threads that it hides are evicted.
    have before := (stored [u.current]).trans (congrArg _ unedited.symm)
    exact (Store.get?_eraseIf ..).trans (congrArg (Option.filter _) before)
  all_goals exact unedited.symm.trans (changed _).symm

variable {now c e id}

/-- A channel is found because the event stored it, or because it was there before. -/
theorem channel_origin {ch : Channel} (found : (c.channelsAfter now e).get? id = some ch) :
    (ch ∈ e.storedChannels ∧ ch.id = id) ∨
      ∃ old, c.channels.get? id = some old ∧ ch = e.editChannel id old := by
  rw [get?_channelsAfter] at found
  obtain ⟨found, -⟩ := Option.filter_eq_some_iff.1 found
  rcases Option.or_eq_some_iff.1 found with new | ⟨-, kept⟩
  · left
    split at new
    · obtain ⟨stored, own⟩ := of_findRev?_eq_some new
      exact ⟨stored, beq_iff_eq.1 own⟩
    · cases new
  · right
    obtain ⟨old, before, rfl⟩ := Option.map_eq_some_iff.1 kept
    exact ⟨old, before, rfl⟩

/-- A channel that the event neither replaces nor evicts stays, with what is edited in place. -/
theorem channel_stays {ch : Channel} (cached : c.channels.get? id = some ch)
    (unreplaced : ∀ new ∈ e.storedChannels, new.id ≠ id)
    (spared : c.dropsChannel now e id (e.editChannel id ch) = false) :
    (c.channelsAfter now e).get? id = some (e.editChannel id ch) := by
  have nothing : e.storedChannels.findRev? (·.id == id) = none := by
    refine findRev?_eq_none_iff.2 fun new stored => ?_
    simpa using unreplaced new stored
  rw [get?_channelsAfter, nothing, ite_self, Option.none_or, cached, Option.map_some,
    Option.filter_some, spared]
  rfl

end Cache

end GatewayCache
