import GatewayCache.Cache.Query

/-!
Permissions without their order of computation. What roles grant in a guild is one union, however
early the walk over them ends, and a timeout masks what overwrites make of it only once.
-/
namespace GatewayCache

namespace Permissions

open Permission

/-! ### Roles -/

/-- The union of what the `@everyone` role, if it is known, and other roles grant. -/
def granted (everyone : Option Permissions) (roles : List Permissions) : Permissions :=
  roles.foldl (· ∪ ·) (everyone.getD none)

theorem has_foldl_union {α : Type} (f : α → Permissions) (start : Permissions) (l : List α)
    (p : Permission) :
    (l.foldl (fun s a => s ∪ f a) start).has p = (start.has p || l.any fun a => (f a).has p) := by
  induction l generalizing start with
  | nil => simp
  | cons a l ih => simp [ih, Bool.or_assoc]

theorem has_granted (everyone : Option Permissions) (roles : List Permissions) (p : Permission) :
    (granted everyone roles).has p = (everyone.any (·.has p) || roles.any (·.has p)) := by
  rw [granted, has_foldl_union fun s => s]
  cases everyone <;> simp

/-- The walk ends early just if the whole union has the administrator permission. -/
theorem addRoles_eq (start : Permissions) (roles : List Permissions) :
    addRoles start roles =
      let whole := roles.foldl (· ∪ ·) start
      if whole.has administrator then Option.none else some whole := by
  induction roles generalizing start with
  | nil => rfl
  | cons role roles ih =>
    rw [addRoles]
    split
    next early =>
      -- What a role has granted, no later role takes away from the union.
      have kept : ((role :: roles).foldl (· ∪ ·) start).has administrator = true := by
        rw [has_foldl_union fun s => s, early, Bool.true_or]
      simp only [kept, if_true]
    next => exact ih (start ∪ role)

theorem inGuild_eq (owner : Bool) (everyone : Option Permissions) (roles : List Permissions)
    (timedOut : Bool) :
    inGuild owner everyone roles timedOut =
      if owner || (granted everyone roles).has administrator then all
      else (granted everyone roles).afterTimeout timedOut := by
  have walk : addRoles (everyone.getD none) roles =
      if (granted everyone roles).has administrator then Option.none
      else some (granted everyone roles) := addRoles_eq _ _
  rw [inGuild, walk]
  cases owner with
  | true => rfl
  | false => cases (granted everyone roles).has administrator <;> rfl

/-- What a member has in its guild when its roles together grant `union`. -/
def ofUnion (owner : Bool) (union : Permissions) (timedOut : Bool) : Permissions :=
  if owner || union.has administrator then all
  else if timedOut then union ∩ (only viewChannel ∪ only readMessageHistory)
  else union

/-! ### Timeouts -/

@[simp] theorem has_afterTimeout (timedOut : Bool) (s : Permissions) (p : Permission) :
    (s.afterTimeout timedOut).has p = (s.has p && (!timedOut || keptInTimeout.has p)) := by
  cases timedOut <;> simp [afterTimeout]

theorem has_keptInTimeout {p : Permission} :
    keptInTimeout.has p = true ↔ p = viewChannel ∨ p = readMessageHistory := by
  simp [keptInTimeout]

/-! ### Overwrites -/

@[simp] theorem has_denyThenAllow (s allow deny : Permissions) (p : Permission) :
    (s.denyThenAllow allow deny).has p = (s.has p && !deny.has p || allow.has p) := by
  simp [denyThenAllow]

@[simp] theorem has_allowThenDeny (s allow deny : Permissions) (p : Permission) :
    (s.allowThenDeny allow deny).has p = ((s.has p || allow.has p) && !deny.has p) := by
  simp [allowThenDeny]

variable {base : Permissions} {guildId userId : Snowflake} {roleIds : List Snowflake}
  {overwrites : Overwrites} {timedOut : Bool}

theorem inChannel_of_administrator (admin : base.has administrator = true) :
    inChannel base guildId roleIds userId overwrites timedOut = all := by
  rw [inChannel, if_pos admin]

/-- Masking before the overwrites and after them comes to masking after them. -/
theorem inChannel_afterTimeout (plain : base.has administrator = false) :
    inChannel (base.afterTimeout timedOut) guildId roleIds userId overwrites timedOut =
      (inChannel base guildId roleIds userId overwrites false).afterTimeout timedOut := by
  cases timedOut with
  | false => rfl
  | true =>
    -- The mask holds no administrator bit, so both runs get past the test for one.
    have masked : (base.afterTimeout true).has administrator = false := by simp [plain]
    -- Each layer decides every permission by itself, so one permission is followed through all.
    refine ext_has fun p => ?_
    simp only [inChannel, plain, masked, Bool.false_eq_true, if_false]
    cases overwrites.role? guildId <;> cases overwrites.member? userId <;>
      cases inMask : keptInTimeout.has p <;> simp [inMask]

/-- What the overwrites for a member's roles, `@everyone` aside, come to in one layer. -/
theorem has_roleLayer (f : Overwrite → Permissions) (p : Permission) :
    (((roleIds.filter (· != guildId)).filterMap overwrites.role?).foldl
        (fun s o => s ∪ f o) none).has p = true ↔
      ∃ id ∈ roleIds, id ≠ guildId ∧ ∃ o, overwrites.role? id = some o ∧ (f o).has p = true := by
  simp only [has_foldl_union, has_none, Bool.false_or, List.any_eq_true, List.mem_filterMap,
    List.mem_filter, bne_iff_ne]
  constructor
  · rintro ⟨o, ⟨id, ⟨member, other⟩, found⟩, holds⟩
    exact ⟨id, member, other, o, found, holds⟩
  · rintro ⟨id, member, other, o, found, holds⟩
    exact ⟨o, ⟨id, ⟨member, other⟩, found⟩, holds⟩

/-- Only which overwrites are found counts, and which roles there are besides `@everyone`. -/
theorem inChannel_congr {roleIds' : List Snowflake} {overwrites' : Overwrites}
    (roles : ∀ id, id ≠ guildId → (id ∈ roleIds' ↔ id ∈ roleIds))
    (found : ∀ kind id, overwrites'.find? kind id = overwrites.find? kind id) :
    inChannel base guildId roleIds' userId overwrites' timedOut =
      inChannel base guildId roleIds userId overwrites timedOut := by
  have forRole : overwrites'.role? = overwrites.role? := funext (found .role)
  have forMember : overwrites'.member? = overwrites.member? := funext (found .member)
  -- A layer is a union, for which order and repetitions of the roles do not count.
  have layer (f : Overwrite → Permissions) :
      ((roleIds'.filter (· != guildId)).filterMap overwrites.role?).foldl
          (fun s o => s ∪ f o) none =
        ((roleIds.filter (· != guildId)).filterMap overwrites.role?).foldl
          (fun s o => s ∪ f o) none := by
    refine ext_has fun p => ?_
    rw [Bool.eq_iff_iff, has_roleLayer, has_roleLayer]
    constructor
    · rintro ⟨id, member, other, rest⟩
      exact ⟨id, (roles id other).1 member, other, rest⟩
    · rintro ⟨id, member, other, rest⟩
      exact ⟨id, (roles id other).2 member, other, rest⟩
  simp only [inChannel, forRole, forMember, layer]

end Permissions

namespace Cache

open Permission

/-- The union of what the cached `@everyone` role and a member's cached roles grant. -/
def rolePermissions (c : Cache) (m : Member) : Permissions :=
  .granted ((c.roles.get? m.guildId m.guildId).map (·.permissions))
    ((c.memberRoles m).map (·.permissions))

/-- Whether a member has every permission: it owns its guild, or a role makes it administrator. -/
def holdsAll (c : Cache) (m : Member) : Bool :=
  c.isOwner m || (c.rolePermissions m).has administrator

/-- What roles and overwrites give a member in a channel, its timeout left aside. -/
def grantedIn (c : Cache) (ch : Channel) (m : Member) : Permissions :=
  .inChannel (c.rolePermissions m) ch.guildId m.roles m.userId (c.overwritesFor ch) false

theorem has_rolePermissions (c : Cache) (m : Member) (p : Permission) :
    (c.rolePermissions m).has p = true ↔
      ∃ id role, (id = m.guildId ∨ id ∈ m.roles) ∧ c.roles.get? m.guildId id = some role ∧
        role.permissions.has p = true := by
  rw [rolePermissions, Permissions.has_granted, Bool.or_eq_true, Option.any_map, List.any_map,
    Option.any_eq_true, List.any_eq_true]
  simp only [memberRoles, List.mem_filterMap, Function.comp_apply]
  -- The first case is the `@everyone` role, which has the id of its guild.
  constructor
  · rintro (⟨role, found, holds⟩ | ⟨role, ⟨id, listed, found⟩, holds⟩)
    · exact ⟨m.guildId, role, .inl rfl, found, holds⟩
    · exact ⟨id, role, .inr listed, found, holds⟩
  · rintro ⟨id, role, rfl | listed, found, holds⟩
    · exact .inl ⟨role, found, holds⟩
    · exact .inr ⟨role, ⟨id, listed, found⟩, holds⟩

theorem basePermissions_eq (c : Cache) (m : Member) (timedOut : Bool) :
    c.basePermissions m timedOut =
      if c.holdsAll m then .all else (c.rolePermissions m).afterTimeout timedOut :=
  Permissions.inGuild_eq ..

theorem memberPermissionsIn_eq (c : Cache) (now : Timestamp) (ch : Channel) (m : Member) :
    c.memberPermissionsIn now ch m =
      if c.holdsAll m then .all else (c.grantedIn ch m).afterTimeout (m.timedOutAt now) := by
  simp only [memberPermissionsIn, basePermissions_eq]
  split
  next => exact Permissions.inChannel_of_administrator (Permissions.has_all _)
  next restricted =>
    have plain : (c.rolePermissions m).has administrator = false := by
      simp only [holdsAll, Bool.or_eq_true, not_or, Bool.not_eq_true] at restricted
      exact restricted.2
    exact Permissions.inChannel_afterTimeout plain

/--
The walk over the roles comes to the rule on their union. So the cache answers by that rule: with
the ownership that it knows of the member's guild, and with the union of its `@everyone` role and of
those roles in the member's list that it has for the guild.
-/
theorem memberPermissions_eq_ofUnion :
    (∀ (owner : Bool) (everyone : Option Permissions) (roles : List Permissions) (timedOut : Bool),
      let union := Permissions.granted everyone roles
      (∀ p, union.has p = true ↔
        (∃ s, everyone = some s ∧ s.has p = true) ∨ ∃ s ∈ roles, s.has p = true) ∧
      Permissions.inGuild owner everyone roles timedOut = .ofUnion owner union timedOut) ∧
    ∀ (c : Cache) (now : Timestamp) (m : Member),
      let union := c.rolePermissions m
      (c.isOwner m = true ↔ ∃ g, c.guilds.get? m.guildId = some g ∧ g.ownerId = m.userId) ∧
      (∀ p, union.has p = true ↔ ∃ id role, (id = m.guildId ∨ id ∈ m.roles) ∧
        c.roles.get? m.guildId id = some role ∧ role.permissions.has p = true) ∧
      c.memberPermissions now m = .ofUnion (c.isOwner m) union (m.timedOutAt now) := by
  constructor
  · intro owner everyone roles timedOut union
    refine ⟨fun p => ?_, Permissions.inGuild_eq ..⟩
    rw [Permissions.has_granted, Bool.or_eq_true, Option.any_eq_true, List.any_eq_true]
  · intro c now m union
    refine ⟨?_, c.has_rolePermissions m, c.basePermissions_eq m (m.timedOutAt now)⟩
    rw [isOwner, Option.any_eq_true]
    simp only [beq_iff_eq]

/-- A member in a timeout whose second role makes it administrator. -/
example :
    Permissions.inGuild false (some (.only 10)) [.only 11, .only administrator, .only 12] true =
      .all := by decide

end Cache

end GatewayCache
