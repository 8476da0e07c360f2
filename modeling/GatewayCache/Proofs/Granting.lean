import GatewayCache.Proofs.Lookup
import GatewayCache.Proofs.OverwritePrecedence
import Mathlib.Data.List.Forall2

/-!
Granting never takes away. A role with more permissions, or overwrites that allow more and deny
less, leave every member with at least what it had. Administrators have everything; for anyone else
the rules that grant a permission come to apply more often and those that refuse it less often.
-/
namespace GatewayCache

namespace Permissions

/-- Every permission of the first set is in the second. -/
instance : HasSubset Permissions := ⟨fun a b => ∀ p, a.has p = true → b.has p = true⟩

instance (a b : Permissions) : Decidable (a ⊆ b) :=
  inferInstanceAs (Decidable (∀ p, a.has p = true → b.has p = true))

variable {a b : Permissions}

theorem subset_all (a : Permissions) : a ⊆ all := fun p _ => has_all p

theorem has_false_of_subset {p : Permission} (subset : a ⊆ b) (absent : b.has p = false) :
    a.has p = false := by
  cases held : a.has p with
  | false => rfl
  | true => exact (subset p held).symm.trans absent

theorem afterTimeout_subset (subset : a ⊆ b) (timedOut : Bool) :
    a.afterTimeout timedOut ⊆ b.afterTimeout timedOut := by
  intro p holds
  rw [has_afterTimeout, Bool.and_eq_true] at holds ⊢
  exact ⟨subset p holds.1, holds.2⟩

end Permissions

/-! ### Overwrites -/

/-- The second overwrite is for the same target, allows no less and denies no more. -/
structure Overwrite.Loosens (o o' : Overwrite) : Prop where
  kind : o'.kind = o.kind
  id : o'.id = o.id
  allow : o.allow ⊆ o'.allow
  deny : o'.deny ⊆ o.deny

namespace Overwrites

variable {os os' : Overwrites} {kind : OverwriteKind} {id : Snowflake} {p : Permission}

theorem find?_loosens (loosens : List.Forall₂ Overwrite.Loosens os.entries os'.entries)
    (kind : OverwriteKind) (id : Snowflake) :
    Option.Rel Overwrite.Loosens (os.find? kind id) (os'.find? kind id) := by
  -- Targets stay as they are, so the lookups stop at the same place of the two lists.
  obtain ⟨entries⟩ := os
  obtain ⟨entries'⟩ := os'
  simp only [find?] at loosens ⊢
  induction loosens with
  | nil => exact .none
  | @cons o o' entries entries' first _ ih =>
    have same : o'.targets kind id = o.targets kind id := by
      rw [Overwrite.targets, first.kind, first.id, Overwrite.targets]
    rw [List.find?_cons, List.find?_cons, same]
    cases o.targets kind id with
    | true => exact .some first
    | false => exact ih

theorem isFirst_allow (loosens : List.Forall₂ Overwrite.Loosens os.entries os'.entries)
    (allowed : ∃ o, os.IsFirst kind id o ∧ o.allow.has p = true) :
    ∃ o', os'.IsFirst kind id o' ∧ o'.allow.has p = true := by
  simp only [isFirst_iff] at allowed ⊢
  obtain ⟨o, found, allows⟩ := allowed
  have lookups := find?_loosens loosens kind id
  rw [found] at lookups
  generalize os'.find? kind id = found' at lookups
  cases lookups with
  | @some _ o' wider => exact ⟨o', rfl, wider.allow p allows⟩

theorem isFirst_deny (loosens : List.Forall₂ Overwrite.Loosens os.entries os'.entries)
    (denied : ∃ o', os'.IsFirst kind id o' ∧ o'.deny.has p = true) :
    ∃ o, os.IsFirst kind id o ∧ o.deny.has p = true := by
  simp only [isFirst_iff] at denied ⊢
  obtain ⟨o', found', denies⟩ := denied
  have lookups := find?_loosens loosens kind id
  rw [found'] at lookups
  generalize os.find? kind id = found at lookups
  cases lookups with
  | @some o _ wider => exact ⟨o, rfl, wider.deny p denies⟩

end Overwrites

/-! ### Rules -/

namespace Permissions

open Permission

/-- A rule that grants applies wherever it did, and one that refuses only where it did. -/
structure Rule.Loosens (rule rule' : Rule) : Prop where
  grants : rule'.grants = rule.grants
  granting : rule.grants = true → rule.applies → rule'.applies
  refusing : rule.grants = false → rule'.applies → rule.applies

theorem decided_mono {otherwise otherwise' : Prop} {rules rules' : List Rule}
    (loosens : List.Forall₂ Rule.Loosens rules rules') (start : otherwise → otherwise') :
    decided otherwise rules → decided otherwise' rules' := by
  induction loosens with
  | nil => exact start
  | @cons rule rule' rules rules' first _ ih =>
    rw [decided, decided, first.grants]
    cases grants : rule.grants with
    | true =>
      rintro (⟨applies, -⟩ | ⟨-, rest⟩)
      · exact .inl ⟨first.granting grants applies, rfl⟩
      · -- The rule may apply only now, and then it grants what the later rules did.
        by_cases applies' : rule'.applies
        · exact .inl ⟨applies', rfl⟩
        · exact .inr ⟨applies', ih rest⟩
    | false =>
      rintro (⟨-, granted⟩ | ⟨idle, rest⟩)
      · cases granted
      · exact .inr ⟨fun applies' => idle (first.refusing grants applies'), ih rest⟩

variable {base base' : Permissions} {guildId userId : Snowflake} {roleIds : List Snowflake}
  {os os' : Overwrites}

theorem channelRules_loosens (loosens : List.Forall₂ Overwrite.Loosens os.entries os'.entries)
    (p : Permission) :
    List.Forall₂ Rule.Loosens (channelRules guildId userId roleIds os p)
      (channelRules guildId userId roleIds os' p) := by
  have granting {old new : Prop} (wider : old → new) : Rule.Loosens ⟨old, true⟩ ⟨new, true⟩ :=
    ⟨rfl, fun _ => wider, nofun⟩
  have refusing {old new : Prop} (narrower : new → old) :
      Rule.Loosens ⟨old, false⟩ ⟨new, false⟩ :=
    ⟨rfl, nofun, fun _ => narrower⟩
  refine .cons (granting ?_) <| .cons (refusing ?_) <| .cons (granting ?_) <|
    .cons (refusing ?_) <| .cons (refusing ?_) <| .cons (granting ?_) .nil
  · exact Overwrites.isFirst_allow loosens
  · exact Overwrites.isFirst_deny loosens
  · rintro ⟨id, listed, other, allowed⟩
    exact ⟨id, listed, other, Overwrites.isFirst_allow loosens allowed⟩
  · rintro ⟨id, listed, other, denied⟩
    exact ⟨id, listed, other, Overwrites.isFirst_deny loosens denied⟩
  · exact Overwrites.isFirst_deny loosens
  · exact Overwrites.isFirst_allow loosens

theorem inChannel_subset (more : base ⊆ base')
    (loosens : List.Forall₂ Overwrite.Loosens os.entries os'.entries) (timedOut : Bool) :
    inChannel base guildId roleIds userId os timedOut ⊆
      inChannel base' guildId roleIds userId os' timedOut := by
  -- Only who is no administrator in the end goes through the layers, and then it was none before.
  cases admin : base'.has administrator with
  | true =>
    rw [inChannel_of_administrator admin]
    exact subset_all _
  | false =>
    have plain : base.has administrator = false := has_false_of_subset more admin
    intro p holds
    rw [has_inChannel plain] at holds
    rw [has_inChannel admin]
    exact ⟨holds.1, decided_mono (channelRules_loosens loosens p) (more p) holds.2⟩

end Permissions

/-! ### Roles -/

namespace Cache

variable {c c' : Cache} {guildId roleId : Snowflake} {more : Permissions}

/-- The caches differ in nothing but the permissions of one role, which are `more` in the second. -/
structure Empowers (guildId roleId : Snowflake) (more : Permissions) (c c' : Cache) : Prop where
  rest : c' = { c with roles := c'.roles }
  role : ∃ role, c.roles.get? guildId roleId = some role ∧ role.permissions ⊆ more ∧
    c'.roles.get? guildId roleId = some { role with permissions := more }
  others : ∀ g id, ¬(g = guildId ∧ id = roleId) → c'.roles.get? g id = c.roles.get? g id

namespace Empowers

variable (empowers : Empowers guildId roleId more c c')
include empowers

theorem exists_role {g id : Snowflake} {role : Role} (found : c.roles.get? g id = some role) :
    ∃ role', c'.roles.get? g id = some role' ∧ role.permissions ⊆ role'.permissions := by
  by_cases here : g = guildId ∧ id = roleId
  · obtain ⟨rfl, rfl⟩ := here
    obtain ⟨old, before, wider, after⟩ := empowers.role
    rw [found] at before
    cases before
    exact ⟨_, after, wider⟩
  · rw [← empowers.others g id here] at found
    exact ⟨role, found, fun _ held => held⟩

theorem rolePermissions_subset (m : Member) : c.rolePermissions m ⊆ c'.rolePermissions m := by
  intro p holds
  rw [has_rolePermissions] at holds ⊢
  obtain ⟨id, role, counts, found, held⟩ := holds
  obtain ⟨role', found', wider⟩ := empowers.exists_role found
  exact ⟨id, role', counts, found', wider p held⟩

theorem isOwner_eq (m : Member) : c'.isOwner m = c.isOwner m := by
  rw [empowers.rest]
  rfl

theorem overwritesFor_eq (ch : Channel) : c'.overwritesFor ch = c.overwritesFor ch := by
  rw [empowers.rest]
  rfl

theorem holdsAll_false (m : Member) (restricted : c'.holdsAll m = false) :
    c.holdsAll m = false := by
  rw [holdsAll, Bool.or_eq_false_iff] at restricted ⊢
  rw [empowers.isOwner_eq] at restricted
  have union := empowers.rolePermissions_subset m
  exact ⟨restricted.1, Permissions.has_false_of_subset union restricted.2⟩

theorem memberPermissions_subset (now : Timestamp) (m : Member) :
    c.memberPermissions now m ⊆ c'.memberPermissions now m := by
  rw [memberPermissions, memberPermissions, basePermissions_eq, basePermissions_eq]
  cases all' : c'.holdsAll m with
  | true => exact Permissions.subset_all _
  | false =>
    rw [empowers.holdsAll_false m all']
    exact Permissions.afterTimeout_subset (empowers.rolePermissions_subset m) _

theorem memberPermissionsIn_subset (now : Timestamp) (ch : Channel) (m : Member) :
    c.memberPermissionsIn now ch m ⊆ c'.memberPermissionsIn now ch m := by
  rw [memberPermissionsIn_eq, memberPermissionsIn_eq]
  cases all' : c'.holdsAll m with
  | true => exact Permissions.subset_all _
  | false =>
    rw [empowers.holdsAll_false m all']
    refine Permissions.afterTimeout_subset ?_ _
    rw [grantedIn, grantedIn, empowers.overwritesFor_eq]
    refine Permissions.inChannel_subset (empowers.rolePermissions_subset m) ?_ false
    exact List.forall₂_same.2 fun _ _ => ⟨rfl, rfl, fun _ held => held, fun _ held => held⟩

end Empowers

/--
When one cached role gets more permissions, no member loses any, in the guild or in any channel; and
no permission in a channel is lost when a member has more of them in the guild and each overwrite of
the list gives way to one for the same target that allows no less and denies no more.
-/
theorem permissions_mono :
    (∀ (c c' : Cache) (guildId roleId : Snowflake) (more : Permissions),
      Empowers guildId roleId more c c' → ∀ (now : Timestamp) (m : Member) (ch : Channel),
        c.memberPermissions now m ⊆ c'.memberPermissions now m ∧
          c.memberPermissionsIn now ch m ⊆ c'.memberPermissionsIn now ch m) ∧
    ∀ (base base' : Permissions) (guildId : Snowflake) (roleIds : List Snowflake)
      (userId : Snowflake) (os os' : Overwrites) (timedOut : Bool),
      base ⊆ base' → List.Forall₂ Overwrite.Loosens os.entries os'.entries →
        Permissions.inChannel base guildId roleIds userId os timedOut ⊆
          Permissions.inChannel base' guildId roleIds userId os' timedOut := by
  constructor
  · intro c c' guildId roleId more empowers now m ch
    exact ⟨empowers.memberPermissions_subset now m, empowers.memberPermissionsIn_subset now ch m⟩
  · intro base base' guildId roleIds userId os os' timedOut more loosens
    exact Permissions.inChannel_subset more loosens timedOut

/--
A role that may not write in a channel comes to manage the messages there; and a denial is lifted
and an own overwrite allows more, while an entry that comes second for its role stays as it is.
-/
theorem permissions_mono_of_manager :
    let role (id : Snowflake) (permissions : Permissions) : Role :=
      { id, guildId := 1, name := "", permissions }
    let more : Permissions := .only 11 ∪ .only 13
    let c := { empty .all with
      roles := (GroupedStore.empty true).addAll [role 1 (.only 10), role 5 (.only 11)] }
    let c' := { c with roles := c.roles.add (role 5 more) }
    let m : Member := { guildId := 1, user := { id := 2, username := "" }, roles := [5] }
    let entry (kind : OverwriteKind) (id : Snowflake) (allow deny : Permissions) : Overwrite :=
      { id, kind, allow, deny }
    let os : Overwrites := ⟨[entry .role 5 ∅ (.only 11), entry .role 5 ∅ (.only 14),
      entry .member 2 (.only 12) (.only 10)]⟩
    let os' : Overwrites := ⟨[entry .role 5 (.only 14) ∅, entry .role 5 ∅ (.only 14),
      entry .member 2 (.only 12 ∪ .only 15) (.only 10)]⟩
    let ch : Channel := .text { id := 3, guildId := 1, name := "", overwrites := os }
    Empowers 1 5 more c c' ∧
      c.memberPermissions .epoch m ⊆ c'.memberPermissions .epoch m ∧
      c.memberPermissionsIn .epoch ch m ⊆ c'.memberPermissionsIn .epoch ch m ∧
      (c.memberPermissionsIn .epoch ch m).has 13 = false ∧
      (c'.memberPermissionsIn .epoch ch m).has 13 = true ∧
      List.Forall₂ Overwrite.Loosens os.entries os'.entries ∧
      Permissions.inChannel (.only 10) 1 [5] 2 os false ⊆
        Permissions.inChannel (.only 10 ∪ .only 16) 1 [5] 2 os' false := by
  intro role more c c' m entry os os' ch
  have empowers : Empowers 1 5 more c c' := by
    refine ⟨rfl, ⟨role 5 (.only 11), by decide, by decide, by decide⟩, ?_⟩
    intro g id elsewhere
    refine (GroupedStore.get?_add ..).trans (if_neg ?_)
    rintro ⟨-, owner, key⟩
    exact elsewhere ⟨(Option.some.inj owner).symm, key.symm⟩
  have loosens : List.Forall₂ Overwrite.Loosens os.entries os'.entries :=
    .cons ⟨rfl, rfl, by decide, by decide⟩ <| .cons ⟨rfl, rfl, by decide, by decide⟩ <|
      .cons ⟨rfl, rfl, by decide, by decide⟩ .nil
  obtain ⟨inGuild, inChannel⟩ := permissions_mono.1 c c' 1 5 more empowers .epoch m ch
  have ofBase := permissions_mono.2 (.only 10) (.only 10 ∪ .only 16) 1 [5] 2 os os' false
  exact ⟨empowers, inGuild, inChannel, by decide, by decide, loosens,
    ofBase (by decide) loosens⟩

end Cache

end GatewayCache
