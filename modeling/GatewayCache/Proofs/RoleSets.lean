import GatewayCache.Proofs.EffectivePermissions
import Mathlib.Data.List.Nodup

/-!
Role lists as sets. What a member may do depends on which roles it has, not on their order, on
repetitions or on whether the guild's own id is listed; and overwrites with different targets may
stand in any order.
-/
namespace GatewayCache

/-! ### Lists of overwrites -/

namespace Overwrites

variable {os os' : Overwrites}

/-- No two entries are for the same role or for the same member. -/
def DistinctTargets (os : Overwrites) : Prop := (os.entries.map fun o => (o.kind, o.id)).Nodup

instance (os : Overwrites) : Decidable os.DistinctTargets :=
  inferInstanceAs (Decidable (List.Nodup _))

theorem DistinctTargets.eq_of_targets (distinct : os.DistinctTargets) {o o' : Overwrite}
    {kind : OverwriteKind} {id : Snowflake} (member : o ∈ os.entries) (member' : o' ∈ os.entries)
    (targets : o.targets kind id = true) (targets' : o'.targets kind id = true) : o = o' := by
  rw [Overwrite.targets_iff] at targets targets'
  have same : (o.kind, o.id) = (o'.kind, o'.id) := by
    rw [targets.1, targets.2, targets'.1, targets'.2]
  exact List.inj_on_of_nodup_map distinct member member' same

/-- With distinct targets, a lookup does not depend on the order of the list. -/
theorem DistinctTargets.find?_perm (distinct : os.DistinctTargets)
    (perm : os'.entries.Perm os.entries) (kind : OverwriteKind) (id : Snowflake) :
    os'.find? kind id = os.find? kind id := by
  cases found : os.find? kind id with
  | none =>
    refine List.find?_eq_none.2 fun o member => ?_
    exact List.find?_eq_none.1 found o (perm.mem_iff.1 member)
  | some o =>
    -- The other list holds this entry too, so it finds one, and the targets say that it is this.
    have member := List.mem_of_find?_eq_some found
    have targets := List.find?_some found
    cases found' : os'.find? kind id with
    | none => exact absurd targets (List.find?_eq_none.1 found' o (perm.mem_iff.2 member))
    | some o' =>
      have member' := perm.mem_iff.1 (List.mem_of_find?_eq_some found')
      have targets' := List.find?_some found'
      rw [distinct.eq_of_targets member member' targets targets']

end Overwrites

/-! ### Members with the same roles -/

namespace Member

/-- Two memberships of one user in one guild that name the same roles besides `@everyone`. -/
structure SameRoles (m m' : Member) : Prop where
  guildId : m'.guildId = m.guildId
  userId : m'.userId = m.userId
  roles : ∀ id, id ≠ m.guildId → (id ∈ m'.roles ↔ id ∈ m.roles)

end Member

namespace Cache

variable {c : Cache} {m m' : Member}

theorem rolePermissions_of_sameRoles (same : m.SameRoles m') :
    c.rolePermissions m' = c.rolePermissions m := by
  refine Permissions.ext_has fun p => ?_
  rw [Bool.eq_iff_iff, has_rolePermissions, has_rolePermissions, same.guildId]
  -- The guild's own id counts whether or not it is listed.
  have counts (id : Snowflake) :
      id = m.guildId ∨ id ∈ m'.roles ↔ id = m.guildId ∨ id ∈ m.roles := by
    by_cases everyone : id = m.guildId
    · simp only [everyone, true_or]
    · simp only [everyone, false_or, same.roles id everyone]
  simp only [counts]

theorem holdsAll_of_sameRoles (same : m.SameRoles m') : c.holdsAll m' = c.holdsAll m := by
  rw [holdsAll, holdsAll, rolePermissions_of_sameRoles same, isOwner, isOwner, same.guildId,
    same.userId]

theorem grantedIn_of_sameRoles (same : m.SameRoles m') {ch : Channel}
    (inGuild : ch.guildId = m.guildId) : c.grantedIn ch m' = c.grantedIn ch m := by
  rw [grantedIn, grantedIn, rolePermissions_of_sameRoles same, same.userId]
  refine Permissions.inChannel_congr ?_ fun _ _ => rfl
  rw [inGuild]
  exact same.roles

/-- Other channels in the cache matter only by the overwrites that they make apply. -/
theorem grantedIn_of_perm {channels : Store Channel} {ch ch' : Channel}
    (guild : ch'.guildId = ch.guildId)
    (perm : ({ c with channels }.overwritesFor ch').entries.Perm (c.overwritesFor ch).entries)
    (distinct : (c.overwritesFor ch).DistinctTargets) (m : Member) :
    { c with channels }.grantedIn ch' m = c.grantedIn ch m := by
  rw [grantedIn, grantedIn, guild]
  exact Permissions.inChannel_congr (fun _ _ => Iff.rfl) (distinct.find?_perm perm)

/--
Two memberships of one user with the same timeout and the same roles besides `@everyone` have the
same permissions, in the guild and in each of its channels. In a channel nothing changes either
when the overwrites that apply, which are the channel's own or those of a thread's parent in the
cache, stand in another order, if their targets are distinct.
-/
theorem permissions_of_same_roles (c : Cache) (now : Timestamp) (m m' : Member)
    (guild : m'.guildId = m.guildId) (user : m'.userId = m.userId)
    (timeout : m'.timeoutEnd = m.timeoutEnd)
    (roles : ∀ id, id ≠ m.guildId → (id ∈ m'.roles ↔ id ∈ m.roles)) :
    c.memberPermissions now m' = c.memberPermissions now m ∧
      (∀ ch : Channel, ch.guildId = m.guildId →
        c.memberPermissionsIn now ch m' = c.memberPermissionsIn now ch m) ∧
      ∀ (channels : Store Channel) (ch ch' : Channel),
        let c' := { c with channels }
        ch'.guildId = ch.guildId →
        (c'.overwritesFor ch').entries.Perm (c.overwritesFor ch).entries →
        (c.overwritesFor ch).DistinctTargets →
        c'.memberPermissionsIn now ch' m = c.memberPermissionsIn now ch m := by
  have same : m.SameRoles m' := ⟨guild, user, roles⟩
  have timedOut : m'.timedOutAt now = m.timedOutAt now := by
    rw [Member.timedOutAt, Member.timedOutAt, timeout]
  refine ⟨?_, ?_, ?_⟩
  · rw [memberPermissions, memberPermissions, basePermissions_eq, basePermissions_eq, timedOut,
      holdsAll_of_sameRoles same, rolePermissions_of_sameRoles same]
  · intro ch inGuild
    rw [memberPermissionsIn_eq, memberPermissionsIn_eq, timedOut, holdsAll_of_sameRoles same,
      grantedIn_of_sameRoles same inGuild]
  · intro channels ch ch' c' guild perm distinct
    -- Ownership and roles are read from other parts than the channels.
    have everywhere : c'.holdsAll m = c.holdsAll m := rfl
    rw [memberPermissionsIn_eq, memberPermissionsIn_eq, everywhere,
      grantedIn_of_perm guild perm distinct]

/--
A role list in another order, with a repetition and the guild's id, and a thread whose parent's
overwrites change places.
-/
theorem permissions_of_same_roles_in_thread :
    let role (id : Snowflake) (permission : Permission) : Role :=
      { id, guildId := 1, name := "", permissions := .only permission }
    let m : Member := { guildId := 1, user := { id := 2, username := "" }, roles := [5, 7] }
    let m' : Member := { m with roles := [7, 5, 1, 7] }
    let forRole : Overwrite := { id := 7, kind := .role, allow := .only 11, deny := .only 10 }
    let forMember : Overwrite := { id := 2, kind := .member, allow := .only 10, deny := .only 11 }
    let parent (entries : List Overwrite) : Channel :=
      .text { id := 3, guildId := 1, name := "", overwrites := ⟨entries⟩ }
    let thread : Channel :=
      .thread { id := 4, guildId := 1, parentId := 3, kind := .publicThread, name := "" }
    let c := { (empty .all).addChannel (parent [forRole, forMember]) with
      roles := (GroupedStore.empty true).addAll [role 1 16, role 5 10, role 7 20] }
    let c' := c.addChannel (parent [forMember, forRole])
    (∀ id, id ≠ m.guildId → (id ∈ m'.roles ↔ id ∈ m.roles)) ∧
      c.memberPermissions .epoch m' = c.memberPermissions .epoch m ∧
      c.memberPermissionsIn .epoch thread m' = c.memberPermissionsIn .epoch thread m ∧
      (c.overwritesFor thread).DistinctTargets ∧
      c'.memberPermissionsIn .epoch thread m = c.memberPermissionsIn .epoch thread m := by
  intro role m m' forRole forMember parent thread c c'
  have roles : ∀ id, id ≠ m.guildId → (id ∈ m'.roles ↔ id ∈ m.roles) := by
    intro id other
    change id ∈ [7, 5, 1, 7] ↔ id ∈ [5, 7]
    have notEveryone : id ≠ 1 := other
    grind
  have distinct : (c.overwritesFor thread).DistinctTargets := by decide
  have whole := permissions_of_same_roles c .epoch m m' rfl rfl rfl roles
  refine ⟨roles, whole.1, whole.2.1 thread rfl, distinct, ?_⟩
  exact whole.2.2 c'.channels thread thread rfl (by decide) distinct

end Cache

end GatewayCache
