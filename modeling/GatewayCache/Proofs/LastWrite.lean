import GatewayCache.Proofs.Invariant

/-!
The cache as a view of the run of events that led to it. What is found under a guild and an id is
what the last event left there that writes or deletes that entry; only members are also edited
between two writes, when a role of their guild is deleted.
-/
namespace GatewayCache

/-- What an event does to one entry of a category. -/
inductive Fate (V : Type) where
  | stays
  | becomes (v : V)
  | goes

namespace Fate

variable {V : Type}

/-- Of several values the last one with the id is written. -/
def listed (key : V → Snowflake) (id : Snowflake) (values : List V) : Fate V :=
  match values.findRev? fun v => key v == id with
  | some v => .becomes v
  | none => .stays

/-- The entry after the event, from the entry before. -/
def on : Fate V → Option V → Option V
  | stays, old => old
  | becomes v, _ => some v
  | goes, _ => none

end Fate

/-! ### What each event does to an entry -/

namespace Event

def roleFate (g id : Snowflake) : Event → Fate Role
  | .guildCreate h =>
    if h.guild.id = g then
      .listed Role.id id (h.roles.map fun r => { r with guildId := h.guild.id })
    else .stays
  | .guildRoleCreate e =>
    if e.guildId = g ∧ e.role.id = id then .becomes { e.role with guildId := e.guildId } else .stays
  | .guildRoleUpdate e =>
    if e.guildId = g ∧ e.role.id = id then .becomes { e.role with guildId := e.guildId } else .stays
  | .guildRoleDelete e => if e.guildId = g ∧ e.roleId = id then .goes else .stays
  | .guildDelete r => if r.id = g then .goes else .stays
  | _ => .stays

def memberFate (g id : Snowflake) : Event → Fate Member
  | .guildCreate h =>
    if h.guild.id = g then
      .listed Member.userId id (h.members.map fun m => { m with guildId := h.guild.id })
    else .stays
  | .guildMemberAdd m => if m.guildId = g ∧ m.userId = id then .becomes m else .stays
  | .guildMemberUpdate e =>
    if e.current.guildId = g ∧ e.current.userId = id then .becomes e.current else .stays
  | .guildMembersChunk e =>
    if e.guildId = g then
      .listed Member.userId id (e.members.map fun m => { m with guildId := e.guildId })
    else .stays
  | .threadMembersUpdate e =>
    if e.guildId = g then
      .listed Member.userId id (e.added.map fun a => { a.member with guildId := e.guildId })
    else .stays
  | .voiceStateUpdate e =>
    match e.member with
    | some m =>
      if e.voiceState.guildId = g ∧ m.userId = id then
        .becomes { m with guildId := e.voiceState.guildId }
      else .stays
    | none => .stays
  | .guildMemberRemove e => if e.guildId = g ∧ e.user.id = id then .goes else .stays
  | .guildDelete r => if r.id = g then .goes else .stays
  | _ => .stays

def presenceFate (g id : Snowflake) : Event → Fate Presence
  | .guildCreate h =>
    if h.guild.id = g then
      .listed Presence.userId id (h.presences.map fun p => { p with guildId := h.guild.id })
    else .stays
  | .presenceUpdate e =>
    if e.current.guildId = g ∧ e.current.userId = id then .becomes e.current else .stays
  | .guildMembersChunk e =>
    if e.guildId = g then
      .listed Presence.userId id (e.presences.map fun p => { p with guildId := e.guildId })
    else .stays
  | .threadMembersUpdate e =>
    if e.guildId = g then
      .listed Presence.userId id
        (e.added.filterMap fun a => a.presence.map fun p => { p with guildId := e.guildId })
    else .stays
  | .guildDelete r => if r.id = g then .goes else .stays
  | _ => .stays

def voiceStateFate (g id : Snowflake) : Event → Fate VoiceState
  | .guildCreate h =>
    if h.guild.id = g then
      .listed VoiceState.userId id (h.voiceStates.map fun v => { v with guildId := h.guild.id })
    else .stays
  | .voiceStateUpdate e =>
    if e.voiceState.guildId = g ∧ e.voiceState.userId = id then
      if e.voiceState.channelId.isSome then .becomes e.voiceState else .goes
    else .stays
  | .guildDelete r => if r.id = g then .goes else .stays
  | _ => .stays

def stageInstanceFate (g id : Snowflake) : Event → Fate StageInstance
  | .guildCreate h =>
    if h.guild.id = g then
      .listed StageInstance.id id (h.stageInstances.map fun s => { s with guildId := h.guild.id })
    else .stays
  | .stageInstanceCreate s => if s.guildId = g ∧ s.id = id then .becomes s else .stays
  | .stageInstanceUpdate e =>
    if e.current.guildId = g ∧ e.current.id = id then .becomes e.current else .stays
  | .stageInstanceDelete e => if e.current.guildId = g ∧ e.current.id = id then .goes else .stays
  | .guildDelete r => if r.id = g then .goes else .stays
  | _ => .stays

def scheduledEventFate (g id : Snowflake) : Event → Fate ScheduledEvent
  | .guildCreate h =>
    if h.guild.id = g then
      .listed ScheduledEvent.id id (h.scheduledEvents.map fun s => { s with guildId := h.guild.id })
    else .stays
  | .guildScheduledEventCreate s => if s.guildId = g ∧ s.id = id then .becomes s else .stays
  | .guildScheduledEventUpdate e =>
    if e.current.guildId = g ∧ e.current.id = id then .becomes e.current else .stays
  | .guildScheduledEventDelete e =>
    if e.current.guildId = g ∧ e.current.id = id then .goes else .stays
  | .guildDelete r => if r.id = g then .goes else .stays
  | _ => .stays

/-- What an event does in place to a member of a guild. -/
def editMember (g : Snowflake) : Event → Member → Member
  | .guildRoleDelete e, m => if e.guildId = g then m.withoutRole e.roleId else m
  | _, m => m

/-- Whether an event deletes a role of a guild. -/
def deletesRole (g roleId : Snowflake) : Event → Bool
  | .guildRoleDelete e => e.guildId == g && e.roleId == roleId
  | _ => false

/--
Goes back over a run, its newest event first, to the last event that writes or deletes an entry.
Gives what that event wrote, and the events after it.
-/
def lastWrite {V : Type} (fate : Event → Fate V) : List Event → Option (V × List Event)
  | [] => none
  | e :: earlier =>
    match fate e with
    | .becomes v => some (v, [])
    | .goes => none
    | .stays => (lastWrite fate earlier).map fun (v, later) => (v, e :: later)

end Event

/-! ### One store and one event -/

namespace GroupedStore

variable {V : Type} {s : GroupedStore V}

private theorem get?_erase_fate (owner key g id : Snowflake) :
    (s.erase owner key).get? g id =
      (if owner = g ∧ key = id then Fate.goes else .stays).on (s.get? g id) := by
  rw [get?_erase]
  by_cases here : owner = g ∧ key = id
  · obtain ⟨rfl, rfl⟩ := here
    simp [Fate.on]
  · have elsewhere : ¬(g = owner ∧ id = key) := fun both => here ⟨both.1.symm, both.2.symm⟩
    rw [if_neg here, if_neg elsewhere]
    rfl

private theorem get?_eraseGroup_fate (owner g id : Snowflake) :
    (s.eraseGroup owner).get? g id =
      (if owner = g then Fate.goes else .stays).on (s.get? g id) := by
  rw [get?_eraseGroup]
  by_cases here : owner = g <;> simp [here, Fate.on, eq_comm]

variable [Filed V]

/-- Filing values of one owner. -/
private theorem get?_addAll_fate (on : s.retains = true) {owner : Snowflake} {values : List V}
    (owned : ∀ v ∈ values, Filed.owner? v = some owner) (g id : Snowflake) :
    (s.addAll values).get? g id =
      (if owner = g then Fate.listed Filed.key id values else .stays).on (s.get? g id) := by
  rw [get?_addAll, if_pos on, lastFiled_of_owner owned]
  split
  next =>
    rw [Fate.listed]
    cases values.findRev? fun v => Filed.key v == id <;> rfl
  next => rfl

/-- Filing one value. -/
private theorem get?_add_fate (on : s.retains = true) {v : V} {owner : Snowflake}
    (owned : Filed.owner? v = some owner) (g id : Snowflake) :
    (s.add v).get? g id =
      (if owner = g ∧ Filed.key v = id then Fate.becomes v else .stays).on (s.get? g id) := by
  rw [get?_add, owned]
  by_cases here : owner = g ∧ Filed.key v = id <;> simp [on, here, Fate.on]

end GroupedStore

namespace Event

open GroupedStore

variable {g id : Snowflake}

theorem get?_onRoles {s : GroupedStore Role} (on : s.retains = true) (e : Event) :
    (e.onRoles s).get? g id = (roleFate g id e).on (s.get? g id) := by
  cases e
  case guildCreate h =>
    refine get?_addAll_fate on ?_ g id
    exact List.forall_mem_map.2 fun _ _ => rfl
  case guildDelete r => exact get?_eraseGroup_fate r.id g id
  case guildRoleCreate e => exact get?_add_fate on rfl g id
  case guildRoleUpdate e => exact get?_add_fate on rfl g id
  case guildRoleDelete e => exact get?_erase_fate e.guildId e.roleId g id
  all_goals rfl

/-- The members of a sound store also change in place. -/
theorem get?_onMembers {s : GroupedStore Member} (sound : s.Sound true) (e : Event) :
    (e.onMembers s).get? g id =
      (memberFate g id e).on ((s.get? g id).map (editMember g e)) := by
  have on : s.retains = true := sound.retains
  have unedited : s.get? g id = (s.get? g id).map fun m => m := (Option.map_id' ..).symm
  cases e
  case guildRoleDelete e =>
    refine (sound.get?_stripRole e.guildId e.roleId g id).trans ?_
    change _ = (s.get? g id).map fun m => if e.guildId = g then m.withoutRole e.roleId else m
    by_cases here : e.guildId = g
    · simp only [here, if_true]
    · simp only [here, if_false]
      rw [if_neg fun same => here same.symm]
      exact unedited
  -- Every other event leaves in place what it does not replace.
  all_goals
    change _ = Fate.on _ ((s.get? g id).map fun m => m)
    rw [← unedited]
  case guildCreate h =>
    refine get?_addAll_fate on ?_ g id
    exact List.forall_mem_map.2 fun _ _ => rfl
  case guildDelete r => exact get?_eraseGroup_fate r.id g id
  case guildMemberAdd m => exact get?_add_fate on rfl g id
  case guildMemberUpdate e => exact get?_add_fate on rfl g id
  case guildMemberRemove e => exact get?_erase_fate e.guildId e.user.id g id
  case guildMembersChunk e =>
    refine get?_addAll_fate on ?_ g id
    exact List.forall_mem_map.2 fun _ _ => rfl
  case threadMembersUpdate e =>
    have joined : (e.added.map (Cache.placeArrival e.id e.guildId)).map (·.member) =
        e.added.map fun a => { a.member with guildId := e.guildId } := List.map_map
    rw [onMembers, joined]
    refine get?_addAll_fate on ?_ g id
    exact List.forall_mem_map.2 fun _ _ => rfl
  case voiceStateUpdate e =>
    -- The member that may come with a voice state is kept whether or not there is a channel.
    obtain ⟨voiceState, member, _⟩ := e
    cases member with
    | none => rfl
    | some m => exact get?_add_fate on rfl g id
  all_goals rfl

theorem get?_onPresences {s : GroupedStore Presence} (on : s.retains = true) (e : Event) :
    (e.onPresences s).get? g id = (presenceFate g id e).on (s.get? g id) := by
  cases e
  case guildCreate h =>
    refine get?_addAll_fate on ?_ g id
    exact List.forall_mem_map.2 fun _ _ => rfl
  case guildDelete r => exact get?_eraseGroup_fate r.id g id
  case presenceUpdate e => exact get?_add_fate on rfl g id
  case guildMembersChunk e =>
    refine get?_addAll_fate on ?_ g id
    exact List.forall_mem_map.2 fun _ _ => rfl
  case threadMembersUpdate e =>
    have joined : (e.added.map (Cache.placeArrival e.id e.guildId)).filterMap (·.presence) =
        e.added.filterMap fun a => a.presence.map fun p => { p with guildId := e.guildId } :=
      List.filterMap_map
    rw [onPresences, joined]
    refine get?_addAll_fate on ?_ g id
    -- A presence that comes with an arrival is one in the event's guild.
    intro p member
    obtain ⟨a, _, placed⟩ := List.mem_filterMap.1 member
    obtain ⟨_, _, rfl⟩ := Option.map_eq_some_iff.1 placed
    rfl
  all_goals rfl

theorem get?_onVoiceStates {s : GroupedStore VoiceState} (on : s.retains = true) (e : Event) :
    (e.onVoiceStates s).get? g id = (voiceStateFate g id e).on (s.get? g id) := by
  cases e
  case guildCreate h =>
    refine get?_addAll_fate on ?_ g id
    exact List.forall_mem_map.2 fun _ _ => rfl
  case guildDelete r => exact get?_eraseGroup_fate r.id g id
  case voiceStateUpdate e =>
    rw [onVoiceStates, voiceStateFate]
    cases e.voiceState.channelId.isSome with
    | true => exact get?_add_fate on rfl g id
    | false => exact get?_erase_fate e.voiceState.guildId e.voiceState.userId g id
  all_goals rfl

theorem get?_onStageInstances {s : GroupedStore StageInstance} (on : s.retains = true)
    (e : Event) :
    (e.onStageInstances s).get? g id = (stageInstanceFate g id e).on (s.get? g id) := by
  cases e
  case guildCreate h =>
    refine get?_addAll_fate on ?_ g id
    exact List.forall_mem_map.2 fun _ _ => rfl
  case guildDelete r => exact get?_eraseGroup_fate r.id g id
  case stageInstanceCreate e => exact get?_add_fate on rfl g id
  case stageInstanceUpdate e => exact get?_add_fate on rfl g id
  case stageInstanceDelete e => exact get?_erase_fate e.current.guildId e.current.id g id
  all_goals rfl

theorem get?_onScheduledEvents {s : GroupedStore ScheduledEvent} (on : s.retains = true)
    (e : Event) :
    (e.onScheduledEvents s).get? g id = (scheduledEventFate g id e).on (s.get? g id) := by
  cases e
  case guildCreate h =>
    refine get?_addAll_fate on ?_ g id
    exact List.forall_mem_map.2 fun _ _ => rfl
  case guildDelete r => exact get?_eraseGroup_fate r.id g id
  case guildScheduledEventCreate e => exact get?_add_fate on rfl g id
  case guildScheduledEventUpdate e => exact get?_add_fate on rfl g id
  case guildScheduledEventDelete e => exact get?_erase_fate e.current.guildId e.current.id g id
  all_goals rfl

end Event

/-! ### Runs of events -/

namespace Event

/-- The edits of a run of role deletions, seen at once: every role deleted in the guild is gone. -/
theorem foldr_editMember (g : Snowflake) (later : List Event) (m : Member) :
    later.foldr (editMember g) m =
      { m with roles := m.roles.filter fun r => !later.any (deletesRole g r) } := by
  induction later with
  | nil =>
    have kept : m.roles.filter (fun _ => true) = m.roles := List.filter_eq_self.2 fun _ _ => rfl
    simp [kept]
  | cons e later ih =>
    rw [List.foldr_cons, ih]
    simp only [List.any_cons]
    cases e
    case guildRoleDelete e =>
      by_cases here : e.guildId = g
      · simp only [editMember, here, if_true, Member.withoutRole, List.filter_filter]
        congr 1
        refine List.filter_congr fun r _ => ?_
        have either : (r == e.roleId) = (e.roleId == r) := BEq.comm
        simp [deletesRole, here, bne, either]
      · have other : (e.guildId == g) = false := beq_eq_false_iff_ne.2 here
        simp [editMember, deletesRole, here, other]
    all_goals rfl

end Event

namespace Cache

open Event

variable {flags : Retention}

theorem Sound.applyAll {c : Cache} (sound : c.Sound flags) (events : List (Timestamp × Event)) :
    (c.applyAll events).Sound flags := by
  induction events generalizing c with
  | nil => exact sound
  | cons e events ih => exact ih (sound.apply e.1 e.2)

/--
A shelf whose entries each event writes, deletes or edits in place holds after a run what the last
write left there, with the edits that came after it.
-/
theorem get?_applyAll (k : Shelf) {g id : Snowflake} (fate : Event → Fate k.Entity)
    (edit : Event → k.Entity → k.Entity)
    (step : ∀ (now : Timestamp) (c : Cache) (e : Event), c.Sound flags → flags.keeps k.category →
      (k.store (c.apply now e).1).get? g id =
        (fate e).on (((k.store c).get? g id).map (edit e)))
    (events : List (Timestamp × Event)) :
    (k.store ((empty flags).applyAll events)).get? g id =
      if flags.keeps k.category then
        (lastWrite fate (events.map (·.2)).reverse).map fun (v, later) => later.foldr edit v
      else none := by
  split
  next on =>
    -- The walk goes back over the run, so the induction is on the run with its newest event first.
    suffices back : ∀ newest : List (Timestamp × Event),
        (k.store ((empty flags).applyAll newest.reverse)).get? g id =
          (lastWrite fate (newest.map (·.2))).map fun (v, later) => later.foldr edit v by
      have whole := back events.reverse
      rw [List.reverse_reverse, List.map_reverse] at whole
      exact whole
    intro newest
    induction newest with
    | nil => cases k <;> rfl
    | cons e earlier ih =>
      have sound := (Sound.empty flags).applyAll earlier.reverse
      have last : (empty flags).applyAll (e :: earlier).reverse =
          (((empty flags).applyAll earlier.reverse).apply e.1 e.2).1 := by
        rw [List.reverse_cons, Cache.applyAll, List.foldl_append]
        rfl
      rw [last, step e.1 _ e.2 sound on, ih, List.map_cons, lastWrite]
      -- The walk stops here unless the event leaves the entry, which then may only be edited.
      cases fate e.2 with
      | stays => simp [Fate.on, Option.map_map, Function.comp_def]
      | becomes v => rfl
      | goes => rfl
  next off =>
    -- A category that is not retained holds nothing to look up.
    have sound := (Sound.empty flags).applyAll events
    have unretained : (k.store ((empty flags).applyAll events)).retains = false := by
      rw [(sound.shelves k).retains]
      simpa using off
    exact GroupedStore.get?_of_not_retains unretained g id

/-- The same for a shelf on which no event edits what it does not write. -/
theorem get?_applyAll_unedited (k : Shelf) {g id : Snowflake} (fate : Event → Fate k.Entity)
    (step : ∀ (now : Timestamp) (c : Cache) (e : Event), (k.store c).retains = true →
      (k.store (c.apply now e).1).get? g id = (fate e).on ((k.store c).get? g id))
    (events : List (Timestamp × Event)) :
    (k.store ((empty flags).applyAll events)).get? g id =
      if flags.keeps k.category then (lastWrite fate (events.map (·.2)).reverse).map (·.1)
      else none := by
  have settled : ∀ (later : List Event) (v : k.Entity), later.foldr (fun _ v => v) v = v := by
    intro later v
    induction later with
    | nil => rfl
    | cons e later ih => exact ih
  have unedited : ∀ (now : Timestamp) (c : Cache) (e : Event), c.Sound flags →
      flags.keeps k.category → (k.store (c.apply now e).1).get? g id =
        (fate e).on (((k.store c).get? g id).map fun v => v) := by
    intro now c e sound on
    rw [Option.map_id']
    exact step now c e ((sound.shelves k).retains.trans on)
  have whole := get?_applyAll k fate (fun _ v => v) unedited events
  simpa only [settled] using whole

/-- Members hold what was written last, without the roles deleted since. -/
theorem get?_members_applyAll {g id : Snowflake} (events : List (Timestamp × Event)) :
    ((empty flags).applyAll events).members.get? g id =
      if flags.keeps .members then
        (lastWrite (memberFate g id) (events.map (·.2)).reverse).map fun (m, later) =>
          { m with roles := m.roles.filter fun r => !later.any (deletesRole g r) }
      else none := by
  have step : ∀ (now : Timestamp) (c : Cache) (e : Event), c.Sound flags → flags.keeps .members →
      (c.apply now e).1.members.get? g id =
        (memberFate g id e).on ((c.members.get? g id).map (editMember g e)) := by
    intro now c e sound on
    have store : c.members.Sound true := on ▸ sound.shelves .members
    rw [fst_apply]
    exact get?_onMembers store e
  have edited := get?_applyAll .members (memberFate g id) (editMember g) step events
  simp only [foldr_editMember] at edited
  exact edited

/--
Whatever events there were, a lookup gives what the last of them wrote or deleted that concerns
the entry; a member has lost the roles deleted since.
-/
theorem lookup_eq_lastWrite (flags : Retention) (events : List (Timestamp × Event))
    (g id : Snowflake) :
    let c := (empty flags).applyAll events
    let back := (events.map (·.2)).reverse
    c.roles.get? g id =
        (if flags.keeps .roles then (lastWrite (roleFate g id) back).map (·.1) else none) ∧
      c.members.get? g id =
        (if flags.keeps .members then
          (lastWrite (memberFate g id) back).map fun (m, later) =>
            { m with roles := m.roles.filter fun r => !later.any (deletesRole g r) }
        else none) ∧
      c.presences.get? g id =
        (if flags.keeps .presences then (lastWrite (presenceFate g id) back).map (·.1)
        else none) ∧
      c.voiceStates.get? g id =
        (if flags.keeps .voiceStates then (lastWrite (voiceStateFate g id) back).map (·.1)
        else none) ∧
      c.stageInstances.get? g id =
        (if flags.keeps .stageInstances then (lastWrite (stageInstanceFate g id) back).map (·.1)
        else none) ∧
      c.scheduledEvents.get? g id =
        (if flags.keeps .scheduledEvents then (lastWrite (scheduledEventFate g id) back).map (·.1)
        else none) := by
  intro c back
  refine ⟨?_, ?_, ?_, ?_, ?_, ?_⟩
  · refine get?_applyAll_unedited .roles (roleFate g id) ?_ events
    intro now c e on
    rw [fst_apply]
    exact get?_onRoles on e
  · exact get?_members_applyAll events
  · refine get?_applyAll_unedited .presences (presenceFate g id) ?_ events
    intro now c e on
    rw [fst_apply]
    exact get?_onPresences on e
  · refine get?_applyAll_unedited .voiceStates (voiceStateFate g id) ?_ events
    intro now c e on
    rw [fst_apply]
    exact get?_onVoiceStates on e
  · refine get?_applyAll_unedited .stageInstances (stageInstanceFate g id) ?_ events
    intro now c e on
    rw [fst_apply]
    exact get?_onStageInstances on e
  · refine get?_applyAll_unedited .scheduledEvents (scheduledEventFate g id) ?_ events
    intro now c e on
    rw [fst_apply]
    exact get?_onScheduledEvents on e

end Cache

end GatewayCache
