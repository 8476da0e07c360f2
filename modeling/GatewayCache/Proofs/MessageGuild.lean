import GatewayCache.Proofs.GuildRemoval
import GatewayCache.Proofs.LastWrite

/-!
Messages and the guild they go with. A guild's deletion finds a message by its channel, if that is
cached as one of the guild, or by the guild id in the message itself. The second is what the last
event says that stored the message, so a message whose channel is not cached goes with its guild
unless it was last stored without a guild id.
-/
namespace GatewayCache

/-- The guild id that an event gives the message with the ids, if it stores that message. -/
def Event.messageGuild? (channelId id : Snowflake) : Event → Option (Option Snowflake)
  | .messageCreate m => if m.channelId = channelId ∧ m.id = id then some m.guildId else none
  | .messageUpdate u =>
    if u.current.channelId = channelId ∧ u.current.id = id then some u.current.guildId else none
  | _ => none

namespace GroupedStore

variable {V : Type} [Filed V] {s : GroupedStore V} {v v' : V} {g id : Snowflake}

/-- What is found after a value is filed is the value if it is the one that is looked for. -/
theorem found_of_add (found : (s.add v).get? g id = some v')
    (here : Filed.owner? v = some g ∧ Filed.key v = id) : v' = v := by
  rw [get?_add] at found
  split at found
  next => exact (Option.some.inj found).symm
  next elsewhere =>
    -- A value that is not kept where it belongs is not kept at all.
    have off : s.retains = false := by simpa [here] using elsewhere
    rw [get?_of_not_retains off] at found
    cases found

theorem found_of_add_elsewhere (found : (s.add v).get? g id = some v')
    (elsewhere : ¬(Filed.owner? v = some g ∧ Filed.key v = id)) : s.get? g id = some v' := by
  rw [get?_add, if_neg fun both => elsewhere both.2] at found
  exact found

end GroupedStore

namespace Cache

variable {c : Cache} {now : Timestamp} {e : Event} {channelId id g : Snowflake} {m : Message}

/-- A message that the event does not store was there before. -/
theorem found_of_unstored (unstored : e.messageGuild? channelId id = none)
    (found : (c.messagesAfter now e).get? channelId id = some m) :
    c.messages.get? channelId id = some m := by
  have elsewhere {a b : Snowflake} {given : Option Snowflake}
      (none : (if a = channelId ∧ b = id then some given else none) = none) :
      ¬(some a = some channelId ∧ b = id) := by
    rw [Option.some.injEq]
    simpa using none
  cases e
  case messageCreate m => exact GroupedStore.found_of_add_elsewhere found (elsewhere unstored)
  case messageUpdate u => exact GroupedStore.found_of_add_elsewhere found (elsewhere unstored)
  case messageDelete r =>
    rw [messagesAfter, GroupedStore.erase_eq_eraseIf] at found
    exact GroupedStore.found_of_eraseIf found
  case messageDeleteBulk r =>
    rw [messagesAfter, GroupedStore.snd_takeAll] at found
    exact GroupedStore.found_of_eraseIf found
  case guildDelete r => exact GroupedStore.found_of_eraseIf found
  case channelUpdate u => exact GroupedStore.found_of_eraseIf found
  case channelDelete d => exact GroupedStore.found_of_eraseIf found
  case threadDelete d => exact GroupedStore.found_of_eraseIf found
  all_goals exact found

/-- A message that the event stores with a guild id has that guild id. -/
theorem guildId_of_stored (stored : e.messageGuild? channelId id = some (some g))
    (found : (c.messagesAfter now e).get? channelId id = some m) : m.guildId = some g := by
  cases e
  case messageCreate sent =>
    rw [Event.messageGuild?] at stored
    split at stored
    next here =>
      have same := GroupedStore.found_of_add found ⟨congrArg some here.1, here.2⟩
      have given : sent.guildId = some g := Option.some.inj stored
      rw [same, placeMessage, given]
      rfl
    next => cases stored
  case messageUpdate u =>
    rw [Event.messageGuild?] at stored
    split at stored
    next here =>
      have same := GroupedStore.found_of_add found ⟨congrArg some here.1, here.2⟩
      rw [same]
      exact Option.some.inj stored
    next => cases stored
  all_goals cases stored

/-- The guild id of a message after a run is the one it was last stored with. -/
theorem guildId_applyAll {run : List (Timestamp × Event)}
    (given : ∀ x ∈ run, ∀ guildId, x.2.messageGuild? channelId id = some guildId →
      guildId = some g ∨ guildId = none)
    (last : run.reverse.findSome? (·.2.messageGuild? channelId id) ≠ some none)
    (before : run.reverse.findSome? (·.2.messageGuild? channelId id) = none →
      ∀ m, c.messages.get? channelId id = some m → m.guildId = some g)
    (found : (c.applyAll run).messages.get? channelId id = some m) : m.guildId = some g := by
  -- What is known of the message before counts only as long as no event of the run stores it.
  induction run generalizing c with
  | nil => exact before rfl m found
  | cons x run ih =>
    obtain ⟨first, rest⟩ := List.forall_mem_cons.1 given
    rw [List.reverse_cons, List.findSome?_append, List.findSome?_singleton] at last before
    cases later : run.reverse.findSome? (·.2.messageGuild? channelId id) with
    | some guildId =>
      -- The rest of the run decides by itself.
      rw [later] at last
      refine ih rest ?_ (fun unstored => ?_) found
      · rw [later]
        exact last
      · rw [later] at unstored
        cases unstored
    | none =>
      rw [later, Option.none_or] at last before
      refine ih rest (by simp [later]) (fun _ m next => ?_) found
      rw [messages_apply] at next
      cases stored : x.2.messageGuild? channelId id with
      | none => exact before stored m (found_of_unstored stored next)
      | some guildId =>
        rcases first guildId stored with rfl | rfl
        · exact guildId_of_stored stored next
        · exact absurd stored last

/--
After any session, a message that is stored with a guild's id, given or its channel's, and later
only with that id or none, goes with the guild if its channel is cached as one of the guild by
then, or if it was not last stored without a guild id.
-/
theorem message_goes_with_guild (flags : Retention) (calls : List Call) (now : Timestamp)
    (m : Message) (g : Snowflake) :
    let c := session flags calls
    (c.placeMessage m).guildId = some g →
    ∀ run : List (Timestamp × Event),
      (∀ x ∈ run, ∀ guildId, x.2.messageGuild? m.channelId m.id = some guildId →
        guildId = some g ∨ guildId = none) →
      let c' := (c.apply now (.messageCreate m)).1.applyAll run
      ((∃ ch, c'.channels.get? m.channelId = some ch ∧ ch.guildId = g) ∨
        run.reverse.findSome? (·.2.messageGuild? m.channelId m.id) ≠ some none) →
      ∀ (later : Timestamp) (r : GuildRemoval), r.id = g →
        (c'.apply later (.guildDelete r)).1.messages.get? m.channelId m.id = none := by
  intro c placed run given c' known later r same
  subst same
  have sound : c'.Sound flags := ((session_sound flags calls).apply now _).applyAll run
  rw [Option.eq_none_iff_forall_ne_some]
  intro left found
  obtain ⟨cached, elsewhere, other⟩ :=
    ((sound.removes later r).messages m.channelId m.id left).1 found
  rcases known with inGuild | last
  · exact elsewhere inGuild
  · -- At first the message has the guild id that it was placed with.
    have first : ∀ m', (c.apply now (.messageCreate m)).1.messages.get? m.channelId m.id = some m' →
        m'.guildId = some r.id := by
      intro m' stored
      rw [messages_apply] at stored
      rw [GroupedStore.found_of_add stored ⟨rfl, rfl⟩]
      exact placed
    exact other (guildId_applyAll given last (fun _ => first) cached)

/-- An update without a guild id, and then one with it, while the channel is not cached. -/
theorem message_goes_with_guild_of_update :
    let message : Message :=
      { id := 4, channelId := 10, guildId := some 1, author := { id := 9, username := "" }
        content := "", timestamp := .epoch }
    let bare : Message := { message with guildId := none }
    let c := session .all []
    let run : List (Timestamp × Event) := [
      (.epoch, .messageUpdate { current := bare }), (.epoch, .messageUpdate { current := message })]
    let c' := (c.apply .epoch (.messageCreate message)).1.applyAll run
    (c'.apply .epoch (.guildDelete ⟨1, false, none⟩)).1.messages.get? 10 4 = none := by
  intro message bare c run c'
  have given : ∀ x ∈ run, ∀ guildId, x.2.messageGuild? 10 4 = some guildId →
      guildId = some 1 ∨ guildId = none := by
    refine List.forall_mem_cons.2 ⟨?_, List.forall_mem_singleton.2 ?_⟩
    · rintro _ ⟨⟩
      exact .inr rfl
    · rintro _ ⟨⟩
      exact .inl rfl
  have last : run.reverse.findSome? (·.2.messageGuild? 10 4) ≠ some none := by decide
  exact message_goes_with_guild .all [] .epoch message 1 rfl run given (.inr last) .epoch
    ⟨1, false, none⟩ rfl

/--
Where only messages are cached, one outlives its guild after an update that does not repeat the
guild id.
-/
theorem message_outlives_guild :
    let message : Message :=
      { id := 4, channelId := 10, guildId := some 1, author := { id := 9, username := "a" }
        content := "x", timestamp := .epoch }
    let edited : Message := { message with guildId := none, content := "y" }
    let c := (Cache.empty (.only .messages)).applyAll [
      (.epoch, .guildCreate
        { guild := { id := 1, name := "g", ownerId := 9 }
          channels := [.text { id := 10, guildId := 0, name := "c" }] }),
      (.epoch, .messageCreate message),
      (.epoch, .messageUpdate { current := edited }),
      (.epoch, .guildDelete ⟨1, false, none⟩)]
    c.messages.get? 10 4 = some edited := by
  decide

end Cache

end GatewayCache
