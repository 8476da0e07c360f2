import GatewayCache.Proofs.Invariant

/-!
What goes with a channel, exactly. The threads of the channel are looked up after the channel itself
is gone, so a channel that names itself as its parent is found no second time; everything that is
not under the id of the channel or of one of its threads stays as it is.
-/
namespace GatewayCache

namespace Cache

variable {flags : Retention} {c c' : Cache} {id : Snowflake} {gone gone' : Snowflake → Prop}

/-! ### Evictions -/

/-- The cache `c'` is `c` without the channels under the ids that are gone, and without the messages
and thread members that are filed under these ids. -/
structure Drops (gone : Snowflake → Prop) (c c' : Cache) : Prop where
  retention : c'.retention = c.retention
  selfUser : c'.selfUser = c.selfUser
  unready : c'.unready = c.unready
  unavailable : c'.unavailable = c.unavailable
  guilds : c'.guilds = c.guilds
  channels : ∀ id ch, c'.channels.get? id = some ch ↔ c.channels.get? id = some ch ∧ ¬gone id
  threadMembers : ∀ id user m, c'.threadMembers.get? id user = some m ↔
    c.threadMembers.get? id user = some m ∧ ¬gone id
  messages : ∀ id message m, c'.messages.get? id message = some m ↔
    c.messages.get? id message = some m ∧ ¬gone id
  /-- No other category has anything under the id of a channel. -/
  shelves : ∀ k : Shelf, k ≠ .threadMembers → k ≠ .messages → k.store c' = k.store c

theorem Drops.of_iff (drops : Drops gone c c') (same : ∀ id, gone' id ↔ gone id) :
    Drops gone' c c' := by
  have equal : gone' = gone := funext fun id => propext (same id)
  rw [equal]
  exact drops

theorem eq_of_spared {V : Type} {gone : Prop} {before after : Option V}
    (left : ∀ v, after = some v ↔ before = some v ∧ ¬gone) (spared : ¬gone) : after = before := by
  ext v
  rw [left]
  exact and_iff_left spared

theorem drops_evictChannels (c : Cache) (ids : List Snowflake) :
    Drops (· ∈ ids) c (c.evictChannels ids) := by
  have left {V : Type} (old : Option V) (id : Snowflake) (v : V) :
      old.filter (fun _ => !ids.contains id) = some v ↔ old = some v ∧ id ∉ ids := by
    rw [Option.filter_eq_some_iff]
    simp only [List.contains_eq_mem, Bool.not_eq_true', decide_eq_false_iff_not]
  rw [evictChannels_eq]
  constructor
  case channels =>
    intro id ch
    rw [Store.get?_eraseIf, left]
  case threadMembers =>
    intro id user m
    rw [GroupedStore.get?_eraseIf, left]
  case messages =>
    intro id message m
    rw [GroupedStore.get?_eraseIf, left]
  case shelves =>
    intro k notThreads notMessages
    cases k
    case threadMembers => exact absurd rfl notThreads
    case messages => exact absurd rfl notMessages
    all_goals rfl
  all_goals rfl

/-! ### The deletion of a channel -/

/-- The id of one of the channels, or of a cached thread in one of them. -/
def Within (channels : Snowflake → Prop) (c : Cache) (id : Snowflake) : Prop :=
  channels id ∨ ∃ t, c.channels.get? id = some (.thread t) ∧ channels t.parentId

/-- Where channels are not retained no threads are known. -/
theorem within_of_not_retains (channels : Snowflake → Prop) (off : c.channels.retains = false) :
    c.Within channels id ↔ channels id := by
  constructor
  · rintro (here | ⟨t, found, -⟩)
    · exact here
    · rw [Store.get?_of_not_retains off] at found
      cases found
  · intro here
    exact .inl here

/-- All that a deletion reads of the channel that it brings is the id. -/
theorem fst_channelDelete (now : Timestamp) (c : Cache) (d : Change Channel) :
    (c.apply now (.channelDelete d)).1 = c.evictChannels (c.evictedBy now (.channelDelete d)) :=
  rfl

/-- Evicted are the channel and the threads that were in it before. -/
theorem Sound.mem_evictedBy_channelDelete (sound : c.Sound flags) (now : Timestamp)
    (d : Change Channel) :
    id ∈ c.evictedBy now (.channelDelete d) ↔ c.Within (· = d.current.id) id := by
  have left : (c.evictChannel d.current.id).channels.Sound Channel.id (flags.keeps .channels) :=
    sound.channels.erase d.current.id
  have rest : (c.evictChannel d.current.id).channels.get? id =
      if id = d.current.id then none else c.channels.get? id := Store.get?_erase ..
  rw [evictedBy, List.mem_cons, threadsIn, left.mem_threadIds, rest]
  constructor
  · rintro (here | ⟨t, found, parent⟩)
    · exact .inl here
    · split at found
      next => cases found
      next => exact .inr ⟨t, found, parent⟩
  · rintro (here | ⟨t, found, parent⟩)
    · exact .inl here
    · by_cases here : id = d.current.id
      · -- A thread that is its own parent is the channel that goes anyway.
        exact .inl here
      · rw [if_neg here]
        exact .inr ⟨t, found, parent⟩

theorem Sound.drops_channelDelete (sound : c.Sound flags) (now : Timestamp) (d : Change Channel) :
    Drops (c.Within (· = d.current.id)) c (c.apply now (.channelDelete d)).1 := by
  rw [fst_channelDelete]
  exact (c.drops_evictChannels _).of_iff fun _ => (sound.mem_evictedBy_channelDelete now d).symm

/--
After any session, the deletion of a channel removes the channel and the threads in it with their
messages and thread members, and nothing else; where channels are not retained, only what is filed
under the channel itself. Of the channel that the event brings only the id counts, and the event
reports the channel as it was cached.
-/
theorem channelDelete_drops (flags : Retention) (calls : List Call) (now : Timestamp)
    (d : Change Channel) :
    let c := session flags calls
    let c' := (c.apply now (.channelDelete d)).1
    Drops (c.Within (· = d.current.id)) c c' ∧
      (flags.keeps .channels = false → Drops (· = d.current.id) c c') ∧
      (∀ (later : Timestamp) (d' : Change Channel), d'.current.id = d.current.id →
        (c.apply later (.channelDelete d')).1 = c') ∧
      (c.apply now (.channelDelete d)).2 =
        .channelDelete { d with old := c.channels.get? d.current.id } := by
  intro c c'
  have sound : c.Sound flags := session_sound flags calls
  have drops : Drops (c.Within (· = d.current.id)) c c' := sound.drops_channelDelete now d
  refine ⟨drops, ?_, ?_, rfl⟩
  · intro off
    have unretained : c.channels.retains = false := sound.channels.retains.trans off
    exact drops.of_iff fun _ => (within_of_not_retains (· = d.current.id) unretained).symm
  · intro later d' same
    have evicted : c.evictedBy later (.channelDelete d') = c.evictedBy now (.channelDelete d) := by
      rw [evictedBy, evictedBy, same]
    rw [fst_channelDelete, evicted]
    rfl

/--
A thread that is its own parent and has a thread below it, in a deletion that brings a category
under its id; and the same deletion where no channels are retained.
-/
theorem channelDelete_drops_of_thread :
    let thread (id parentId : Snowflake) : Channel :=
      .thread { id, guildId := 1, parentId, kind := .publicThread, name := "" }
    let member (threadId : Snowflake) : ThreadMember := { threadId, userId := 5 }
    let calls : List Call := [
      .addChannel (thread 11 11), .addChannel (thread 12 11), .addChannel (thread 13 12),
      .add .threadMembers (member 11), .add .threadMembers (member 12),
      .add .threadMembers (member 13)]
    let category : Channel := .category { id := 11, guildId := 2, name := "" }
    let deleted (c : Cache) (ch : Channel) := (c.apply .epoch (.channelDelete { current := ch })).1
    let c := session .all calls
    let bare := session (.only .threadMembers) calls
    Drops (c.Within (· = 11)) c (deleted c category) ∧ c.Within (· = 11) 12 ∧
      ¬c.Within (· = 11) 13 ∧ deleted c category = deleted c (thread 11 11) ∧
      Drops (· = 11) bare (deleted bare category) := by
  intro thread member calls category deleted c bare
  obtain ⟨drops, -, alike, -⟩ := channelDelete_drops .all calls .epoch { current := category }
  obtain ⟨-, unretained, -, -⟩ :=
    channelDelete_drops (.only .threadMembers) calls .epoch { current := category }
  have below : c.channels.get? 12 = some (thread 12 11) := by decide
  have deeper : c.channels.get? 13 = some (thread 13 12) := by decide
  refine ⟨drops, .inr ⟨_, below, rfl⟩, ?_, ?_, unretained (by decide)⟩
  · rintro (here | ⟨t, found, parent⟩)
    · cases here
    · rw [deeper] at found
      cases found
      cases parent
  · exact (alike .epoch { current := thread 11 11 } rfl).symm

end Cache

end GatewayCache
