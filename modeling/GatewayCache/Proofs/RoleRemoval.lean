import GatewayCache.Proofs.Invariant
import GatewayCache.Proofs.OverwritePrecedence
import Mathlib.Data.List.Basic

/-!
What is left of a deleted role. Its guild has it no more and no member there holds it, but channels
keep their overwrites for it. These decide nothing any more: an overwrite for a role counts for
members who hold the role, and `@everyone`, which all hold, is the one role left out here.
-/
namespace GatewayCache

/-! ### Overwrites for a role -/

namespace Overwrites

/-- The list without its overwrites for a role, of which it may have several. -/
def withoutRole (os : Overwrites) (roleId : Snowflake) : Overwrites :=
  ⟨os.entries.filter fun o => !o.targets .role roleId⟩

theorem find?_withoutRole (os : Overwrites) (roleId : Snowflake) (kind : OverwriteKind)
    (id : Snowflake) :
    (os.withoutRole roleId).find? kind id =
      if kind = .role ∧ id = roleId then none else os.find? kind id := by
  rw [find?, withoutRole, List.find?_filter]
  by_cases removed : kind = .role ∧ id = roleId
  · obtain ⟨rfl, rfl⟩ := removed
    rw [if_pos ⟨rfl, rfl⟩]
    refine List.find?_eq_none.2 fun o _ => ?_
    simp
  · rw [if_neg removed, find?]
    congr 1
    funext o
    cases wanted : o.targets kind id with
    | false => simp
    | true =>
      -- An entry that is looked for has another target than those that are left out.
      have kept : o.targets .role roleId = false := by
        rw [Bool.eq_false_iff]
        intro dropped
        obtain ⟨sameKind, sameId⟩ := Overwrite.targets_iff.1 wanted
        rw [Overwrite.targets_iff, sameKind, sameId] at dropped
        exact removed dropped
      simp [kept]

end Overwrites

namespace Channel

/-- The channel without its overwrites for a role. -/
def withoutOverwritesFor (roleId : Snowflake) : Channel → Channel
  | text c => text { c with overwrites := c.overwrites.withoutRole roleId }
  | news c => news { c with overwrites := c.overwrites.withoutRole roleId }
  | voice c => voice { c with overwrites := c.overwrites.withoutRole roleId }
  | stage c => stage { c with overwrites := c.overwrites.withoutRole roleId }
  | category c => category { c with overwrites := c.overwrites.withoutRole roleId }
  | forum c => forum { c with overwrites := c.overwrites.withoutRole roleId }
  | media c => media { c with overwrites := c.overwrites.withoutRole roleId }
  | thread c => thread c

@[simp] theorem guildId_withoutOverwritesFor (roleId : Snowflake) (ch : Channel) :
    (ch.withoutOverwritesFor roleId).guildId = ch.guildId := by
  cases ch <;> rfl

@[simp] theorem overwrites_withoutOverwritesFor (roleId : Snowflake) (ch : Channel) :
    (ch.withoutOverwritesFor roleId).overwrites = ch.overwrites.withoutRole roleId := by
  cases ch <;> rfl

end Channel

namespace Cache

variable {flags : Retention} {c : Cache} {ch : Channel} {m : Member} {roleId : Snowflake}

/-- The cache in which a channel's parent has no overwrites for a role. -/
def withoutParentOverwrites (c : Cache) (ch : Channel) (roleId : Snowflake) : Cache :=
  { c with
    channels := match ch.parentId? with
      | some parentId => c.channels.modify parentId (.withoutOverwritesFor roleId)
      | none => c.channels }

/-- Wherever the overwrites of a channel come from, those for the role are left out of them. -/
theorem overwritesFor_withoutRole (c : Cache) (ch : Channel) (roleId : Snowflake) :
    (c.withoutParentOverwrites ch roleId).overwritesFor (ch.withoutOverwritesFor roleId) =
      (c.overwritesFor ch).withoutRole roleId := by
  cases ch
  case thread t =>
    have parent : (c.withoutParentOverwrites (.thread t) roleId).channels.get? t.parentId =
        (c.channels.get? t.parentId).map (.withoutOverwritesFor roleId) := by
      refine (Store.get?_modify ..).trans ?_
      rw [if_pos rfl]
    simp only [overwritesFor, Channel.withoutOverwritesFor, parent]
    cases c.channels.get? t.parentId with
    | none => rfl
    | some parent => exact parent.overwrites_withoutOverwritesFor roleId
  all_goals rfl

/-- Overwrites for a role count for nobody who does not hold it. -/
theorem memberPermissionsIn_withoutRole (now : Timestamp) (unheld : roleId ∉ m.roles)
    (other : roleId ≠ ch.guildId) :
    (c.withoutParentOverwrites ch roleId).memberPermissionsIn now
        (ch.withoutOverwritesFor roleId) m =
      c.memberPermissionsIn now ch m := by
  have base : (c.withoutParentOverwrites ch roleId).basePermissions m = c.basePermissions m := rfl
  rw [memberPermissionsIn, memberPermissionsIn, base, overwritesFor_withoutRole,
    Channel.guildId_withoutOverwritesFor]
  refine Permissions.inChannel_of_concerned fun kind id concerned => ?_
  rw [Overwrites.find?_withoutRole, if_neg]
  rintro ⟨rfl, rfl⟩
  rcases concerned with everyone | listed
  · exact other everyone
  · exact unheld listed

/-! ### The deletion of a role -/

/-- How the cache `c'` after the deletion of a role differs from the cache `c` before. -/
structure ForgetsRole (guildId roleId : Snowflake) (c c' : Cache) : Prop where
  retention : c'.retention = c.retention
  selfUser : c'.selfUser = c.selfUser
  unready : c'.unready = c.unready
  unavailable : c'.unavailable = c.unavailable
  guilds : c'.guilds = c.guilds
  channels : c'.channels = c.channels
  roles : ∀ g id, c'.roles.get? g id =
    if g = guildId ∧ id = roleId then none else c.roles.get? g id
  /-- Whoever held the role holds the others in the order as before. -/
  members : ∀ g id, c'.members.get? g id =
    if g = guildId then
      (c.members.get? g id).map fun m => { m with roles := m.roles.filter (· != roleId) }
    else c.members.get? g id
  shelves : ∀ k : Shelf, k ≠ .roles → k ≠ .members → k.store c' = k.store c

theorem Sound.forgetsRole (sound : c.Sound flags) (now : Timestamp) (r : RoleRemoval) :
    ForgetsRole r.guildId r.roleId c (c.apply now (.guildRoleDelete r)).1 := by
  have members : c.members.Sound (flags.keeps .members) := sound.shelves .members
  rw [fst_apply]
  constructor
  case roles =>
    intro g id
    exact GroupedStore.get?_erase ..
  case members =>
    intro g id
    exact members.get?_stripRole r.guildId r.roleId g id
  case shelves =>
    intro k notRoles notMembers
    cases k
    case roles => exact absurd rfl notRoles
    case members => exact absurd rfl notMembers
    all_goals rfl
  all_goals rfl

/--
After any session, the deletion of a role takes it from its guild and from the role list of every
member there, and changes nothing else. From then on no member's permissions in a channel of the
guild depend on the overwrites for the role that the channel and its cached parent still have, if
the role is not `@everyone`.
-/
theorem roleDelete_forgets (flags : Retention) (calls : List Call) (now : Timestamp)
    (r : RoleRemoval) :
    let c := session flags calls
    let c' := (c.apply now (.guildRoleDelete r)).1
    ForgetsRole r.guildId r.roleId c c' ∧
      (r.roleId ≠ r.guildId → ∀ (later : Timestamp) (id : Snowflake) (m : Member) (ch : Channel),
        c'.members.get? r.guildId id = some m → ch.guildId = r.guildId →
        (c'.withoutParentOverwrites ch r.roleId).memberPermissionsIn later
            (ch.withoutOverwritesFor r.roleId) m =
          c'.memberPermissionsIn later ch m) := by
  intro c c'
  have sound : c.Sound flags := session_sound flags calls
  have forgets := sound.forgetsRole now r
  refine ⟨forgets, ?_⟩
  intro other later id m ch member inGuild
  have unheld : r.roleId ∉ m.roles := by
    rw [forgets.members, if_pos rfl] at member
    obtain ⟨old, -, rfl⟩ := Option.map_eq_some_iff.1 member
    simp
  exact memberPermissionsIn_withoutRole later unheld (inGuild ▸ other)

/--
A role that is listed twice and has two overwrites in the parent of a thread: before its deletion
they let a member write in the thread, and after it they may as well not be there.
-/
theorem roleDelete_forgets_overwrites :
    let everyone : Role := { id := 1, guildId := 1, name := "", permissions := .only 10 }
    let m : Member := { guildId := 1, user := { id := 2, username := "" }, roles := [7, 5, 7] }
    let left : Member := { m with roles := [5] }
    let entry (id : Snowflake) (permission : Permission) : Overwrite :=
      { id, kind := .role, allow := .only permission, deny := ∅ }
    let parent : Channel := .forum
      { id := 3, guildId := 1, name := "", overwrites := ⟨[entry 7 11, entry 5 12, entry 7 13]⟩ }
    let thread : Channel :=
      .thread { id := 4, guildId := 1, parentId := 3, kind := .publicThread, name := "" }
    let calls : List Call := [.add .roles everyone, .add .members m, .addChannel parent]
    let c := session .all calls
    let c' := (c.apply .epoch (.guildRoleDelete ⟨1, 7, none⟩)).1
    let bare := c'.withoutParentOverwrites thread 7
    (c.memberPermissionsIn .epoch thread m).has 11 = true ∧ c'.members.get? 1 2 = some left ∧
      (c'.memberPermissionsIn .epoch thread left).has 11 = false ∧
      bare.channels.get? 3 =
        some (.forum { id := 3, guildId := 1, name := "", overwrites := ⟨[entry 5 12]⟩ }) ∧
      bare.memberPermissionsIn .epoch thread left =
        c'.memberPermissionsIn .epoch thread left := by
  intro everyone m left entry parent thread calls c c' bare
  obtain ⟨forgets, unchanged⟩ := roleDelete_forgets .all calls .epoch ⟨1, 7, none⟩
  have member : c'.members.get? 1 2 = some left := (forgets.members 1 2).trans rfl
  refine ⟨by decide, member, by decide, by decide, ?_⟩
  exact unchanged (by decide) .epoch 2 left thread member rfl

end Cache

end GatewayCache
