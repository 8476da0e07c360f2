import GatewayCache.Proofs.EffectivePermissions
import Mathlib.Data.List.Basic

/-!
Which overwrite decides a permission in a channel. The layers of overwrites amount to a list of
rules, the strongest first, and the first rule that applies decides.
-/
namespace GatewayCache

namespace Overwrites

/-- The overwrite of a target: the first entry that has both its kind and its id. -/
def IsFirst (os : Overwrites) (kind : OverwriteKind) (id : Snowflake) (o : Overwrite) : Prop :=
  ∃ before after, os.entries = before ++ o :: after ∧ (o.kind = kind ∧ o.id = id) ∧
    ∀ earlier ∈ before, ¬(earlier.kind = kind ∧ earlier.id = id)

theorem isFirst_iff (os : Overwrites) (kind : OverwriteKind) (id : Snowflake) (o : Overwrite) :
    os.IsFirst kind id o ↔ os.find? kind id = some o := by
  rw [find?, List.find?_eq_some_iff_append, Overwrite.targets_iff]
  constructor
  · rintro ⟨before, after, entries, here, none⟩
    refine ⟨here, before, after, entries, fun earlier member => ?_⟩
    rw [Bool.not_eq_true', ← Bool.not_eq_true, Overwrite.targets_iff]
    exact none earlier member
  · rintro ⟨here, before, after, entries, none⟩
    refine ⟨before, after, entries, here, fun earlier member same => ?_⟩
    have other := none earlier member
    rw [Overwrite.targets_iff.2 same] at other
    cases other

theorem isFirst_role_iff (os : Overwrites) (id : Snowflake) (o : Overwrite) :
    os.IsFirst .role id o ↔ os.role? id = some o :=
  os.isFirst_iff .role id o

theorem isFirst_member_iff (os : Overwrites) (id : Snowflake) (o : Overwrite) :
    os.IsFirst .member id o ↔ os.member? id = some o :=
  os.isFirst_iff .member id o

end Overwrites

namespace Permissions

open Permission

/-! ### Rules -/

/-- A rule about a permission: when it applies, and whether it then grants the permission. -/
structure Rule where
  applies : Prop
  grants : Bool

/-- What the first rule that applies says; where none applies, it stays as it is `otherwise`. -/
def decided (otherwise : Prop) : List Rule → Prop
  | [] => otherwise
  | rule :: rules =>
    rule.applies ∧ rule.grants = true ∨ ¬rule.applies ∧ decided otherwise rules

/-- Rules that stand behind others decide what those start from. -/
theorem decided_append (otherwise : Prop) (first second : List Rule) :
    decided otherwise (first ++ second) ↔ decided (decided otherwise second) first := by
  induction first with
  | nil => exact Iff.rfl
  | cons rule rules ih => simp only [List.cons_append, decided, ih]

variable (guildId userId : Snowflake) (roleIds : List Snowflake) (overwrites : Overwrites)
  (p : Permission)

/-- The member's own overwrite; what it allows is stronger than what it denies. -/
def memberRules : List Rule := [
  ⟨∃ o, overwrites.IsFirst .member userId o ∧ o.allow.has p = true, true⟩,
  ⟨∃ o, overwrites.IsFirst .member userId o ∧ o.deny.has p = true, false⟩]

/-- The overwrites of the roles besides `@everyone`; one that allows goes before those that deny. -/
def roleRules : List Rule := [
  ⟨∃ id ∈ roleIds, id ≠ guildId ∧
    ∃ o, overwrites.IsFirst .role id o ∧ o.allow.has p = true, true⟩,
  ⟨∃ id ∈ roleIds, id ≠ guildId ∧
    ∃ o, overwrites.IsFirst .role id o ∧ o.deny.has p = true, false⟩]

/-- The overwrite of `@everyone`; what it denies is stronger than what it allows. -/
def everyoneRules : List Rule := [
  ⟨∃ o, overwrites.IsFirst .role guildId o ∧ o.deny.has p = true, false⟩,
  ⟨∃ o, overwrites.IsFirst .role guildId o ∧ o.allow.has p = true, true⟩]

/-- The rules for a permission in a channel, the strongest first. -/
def channelRules : List Rule :=
  memberRules userId overwrites p ++
    (roleRules guildId roleIds overwrites p ++ everyoneRules guildId overwrites p)

/-! ### Layers -/

variable {guildId userId roleIds overwrites p} {base : Permissions} {timedOut : Bool}

theorem has_memberLayer :
    (match overwrites.member? userId with
      | some o => base.denyThenAllow o.allow o.deny
      | Option.none => base).has p = true ↔
      decided (base.has p = true) (memberRules userId overwrites p) := by
  simp only [memberRules, decided, Overwrites.isFirst_member_iff]
  cases overwrites.member? userId with
  | none => simp
  | some o => cases allowed : o.allow.has p <;> simp [allowed, and_comm]

theorem has_roleLayers :
    (base.denyThenAllow
      (((roleIds.filter (· != guildId)).filterMap overwrites.role?).foldl
        (fun s o => s ∪ o.allow) none)
      (((roleIds.filter (· != guildId)).filterMap overwrites.role?).foldl
        (fun s o => s ∪ o.deny) none)).has p = true ↔
      decided (base.has p = true) (roleRules guildId roleIds overwrites p) := by
  -- Which of the roles allows or denies is lost in the unions, and does not matter.
  have layer (f : Overwrite → Permissions) :
      (((roleIds.filter (· != guildId)).filterMap overwrites.role?).foldl
        (fun s o => s ∪ f o) none).has p = true ↔
      ∃ id ∈ roleIds, id ≠ guildId ∧ ∃ o, overwrites.role? id = some o ∧ (f o).has p = true :=
    has_roleLayer f p
  have allows := layer (·.allow)
  have denies := layer (·.deny)
  simp only [roleRules, decided, Overwrites.isFirst_role_iff, ← allows, ← denies,
    has_denyThenAllow, Bool.or_eq_true, Bool.and_eq_true, Bool.not_eq_true', ← Bool.not_eq_true]
  grind

theorem has_everyoneLayer :
    (match overwrites.role? guildId with
      | some o => base.allowThenDeny o.allow o.deny
      | Option.none => base).has p = true ↔
      decided (base.has p = true) (everyoneRules guildId overwrites p) := by
  simp only [everyoneRules, decided, Overwrites.isFirst_role_iff]
  cases overwrites.role? guildId with
  | none => simp
  | some o =>
    cases denied : o.deny.has p <;> cases allowed : o.allow.has p <;> simp [denied, allowed]

/-- Layer after layer, the rules are applied from the weakest to the strongest. -/
theorem has_inChannel (plain : base.has administrator = false) :
    (inChannel base guildId roleIds userId overwrites timedOut).has p = true ↔
      (timedOut = false ∨ keptInTimeout.has p = true) ∧
        decided (base.has p = true) (channelRules guildId userId roleIds overwrites p) := by
  rw [channelRules, decided_append, decided_append, ← has_everyoneLayer, ← has_roleLayers,
    ← has_memberLayer]
  have left : (!timedOut || keptInTimeout.has p) = true ↔
      timedOut = false ∨ keptInTimeout.has p = true := by
    rw [Bool.or_eq_true, Bool.not_eq_true']
  simp only [inChannel, plain, Bool.false_eq_true, if_false, has_afterTimeout]
  exact Bool.and_eq_true_iff.trans (and_comm.trans (and_congr_left' left))

/-- Whether a channel's overwrite for a target concerns the member at all. -/
def Concerns (guildId userId : Snowflake) (roleIds : List Snowflake) :
    OverwriteKind → Snowflake → Prop
  | .member, id => id = userId
  | .role, id => id = guildId ∨ id ∈ roleIds

/-- Only the overwrites that concern the member are looked up. -/
theorem inChannel_of_concerned {overwrites' : Overwrites}
    (same : ∀ kind id, Concerns guildId userId roleIds kind id →
      overwrites'.find? kind id = overwrites.find? kind id) :
    inChannel base guildId roleIds userId overwrites' timedOut =
      inChannel base guildId roleIds userId overwrites timedOut := by
  have own : overwrites'.member? userId = overwrites.member? userId := same .member userId rfl
  have general : overwrites'.role? guildId = overwrites.role? guildId :=
    same .role guildId (.inl rfl)
  have applied : (roleIds.filter (· != guildId)).filterMap overwrites'.role? =
      (roleIds.filter (· != guildId)).filterMap overwrites.role? := by
    refine List.filterMap_congr fun id listed => ?_
    exact same .role id (.inr (List.mem_of_mem_filter listed))
  simp only [inChannel, own, general, applied]

theorem channelRules_congr {overwrites' : Overwrites}
    (same : ∀ kind id, Concerns guildId userId roleIds kind id →
      ∀ o, overwrites'.IsFirst kind id o ↔ overwrites.IsFirst kind id o) :
    channelRules guildId userId roleIds overwrites' p =
      channelRules guildId userId roleIds overwrites p := by
  have ofMember (o : Overwrite) := same .member userId rfl o
  have ofEveryone (o : Overwrite) := same .role guildId (.inl rfl) o
  have ofRoles (holds : Overwrite → Prop) :
      (∃ id ∈ roleIds, id ≠ guildId ∧ ∃ o, overwrites'.IsFirst .role id o ∧ holds o) ↔
        ∃ id ∈ roleIds, id ≠ guildId ∧ ∃ o, overwrites.IsFirst .role id o ∧ holds o := by
    refine exists_congr fun id => and_congr_right fun listed => and_congr_right fun _ => ?_
    exact exists_congr fun o => and_congr_left' (same .role id (.inr listed) o)
  simp only [channelRules, memberRules, roleRules, everyoneRules, ofMember, ofEveryone, ofRoles]

/--
An administrator has every permission in a channel. Anyone else has just those that a timeout leaves
and that the first rule that applies grants, or, where none applies, that it has in the guild. All
that counts of the overwrites is the first entry for the member, for `@everyone` and for each of its
roles.
-/
theorem inChannel_precedence (base : Permissions) (guildId : Snowflake)
    (roleIds : List Snowflake) (userId : Snowflake) (overwrites : Overwrites) (timedOut : Bool) :
    let result := inChannel base guildId roleIds userId overwrites timedOut
    (base.has administrator = true → result = all) ∧
      (base.has administrator = false → ∀ p, result.has p = true ↔
        (timedOut = false ∨ p = viewChannel ∨ p = readMessageHistory) ∧
          decided (base.has p = true) (channelRules guildId userId roleIds overwrites p)) ∧
      ∀ overwrites' : Overwrites,
        (∀ kind id, Concerns guildId userId roleIds kind id →
          ∀ o, overwrites'.IsFirst kind id o ↔ overwrites.IsFirst kind id o) →
        inChannel base guildId roleIds userId overwrites' timedOut = result := by
  intro result
  refine ⟨inChannel_of_administrator, fun plain p => ?_, fun overwrites' same => ?_⟩
  · rw [← has_keptInTimeout]
    exact has_inChannel plain
  · cases admin : base.has administrator with
    | true => rw [inChannel_of_administrator admin]; exact (inChannel_of_administrator admin).symm
    | false =>
      refine ext_has fun p => ?_
      rw [Bool.eq_iff_iff, has_inChannel admin, has_inChannel admin, channelRules_congr same]

/--
A role that allows against one that denies, and the member's own denial. A member with the id of a
role, a role with the id of the member and a second entry for a role do not count.
-/
theorem inChannel_precedence_of_repeated_targets :
    let entry (kind : OverwriteKind) (id : Snowflake) (allow deny : Permissions) : Overwrite :=
      { id, kind, allow, deny }
    let decisive := [entry .role 7 ∅ (only 11), entry .member 2 (only 12) (only 13),
      entry .role 5 (only 11 ∪ only 13) (only 12), entry .role 1 (only 14) (only 14)]
    let idle := [entry .member 5 ∅ (only 11), entry .role 2 ∅ (only 12), entry .role 7 (only 14) ∅]
    let base := only viewChannel
    let result (base : Permissions) (entries : List Overwrite) :=
      inChannel base 1 [5, 7, 1] 2 ⟨entries⟩ false
    let rules := channelRules 1 2 [5, 7, 1] ⟨decisive ++ idle⟩
    base.has administrator = false ∧
      decided (base.has 11 = true) (rules 11) ∧ decided (base.has 12 = true) (rules 12) ∧
      ¬decided (base.has 13 = true) (rules 13) ∧ ¬decided (base.has 14 = true) (rules 14) ∧
      result base decisive = result base (decisive ++ idle) ∧
      result (only administrator) (decisive ++ idle) = all := by
  intro entry decisive idle base result rules
  have plain : base.has administrator = false := by decide
  obtain ⟨-, granted, concerned⟩ :=
    inChannel_precedence base 1 [5, 7, 1] 2 ⟨decisive ++ idle⟩ false
  have ofAdmin :=
    (inChannel_precedence (only administrator) 1 [5, 7, 1] 2 ⟨decisive ++ idle⟩ false).1
  have byRules (p : Permission) : (result base (decisive ++ idle)).has p = true ↔
      decided (base.has p = true) (rules p) :=
    (granted plain p).trans (and_iff_right (.inl rfl))
  -- The idle entries are first for no target that concerns the member.
  have same : ∀ kind id, Concerns 1 2 [5, 7, 1] kind id → ∀ o,
      Overwrites.IsFirst ⟨decisive⟩ kind id o ↔
        Overwrites.IsFirst ⟨decisive ++ idle⟩ kind id o := by
    intro kind id concerns o
    rw [Overwrites.isFirst_iff, Overwrites.isFirst_iff]
    cases kind with
    | member =>
      obtain rfl : id = 2 := concerns
      exact Iff.rfl
    | role =>
      have listed : id = 1 ∨ id ∈ [5, 7, 1] := concerns
      simp only [List.mem_cons, List.not_mem_nil, or_false] at listed
      rcases listed with rfl | rfl | rfl | rfl <;> exact Iff.rfl
  refine ⟨plain, (byRules 11).1 (by decide), (byRules 12).1 (by decide), ?_, ?_, concerned _ same,
    ofAdmin (by decide)⟩
  · rw [← byRules]
    decide
  · rw [← byRules]
    decide

end Permissions

end GatewayCache
