import GatewayCache.Proofs.EffectivePermissions

/-!
Threads go by their parents. What a member may do in a thread is what it may do in the cached parent
of the same guild; where a parent gives no overwrites, it is what the member may do in the guild.
-/
namespace GatewayCache

namespace Permissions

open Permission

variable {base : Permissions} {guildId userId : Snowflake} {roleIds : List Snowflake}
  {timedOut : Bool}

theorem denyThenAllow_none (s : Permissions) : s.denyThenAllow none none = s := by
  refine ext_has fun p => ?_
  simp

theorem inChannel_empty (plain : base.has administrator = false) :
    inChannel base guildId roleIds userId ∅ timedOut = base.afterTimeout timedOut := by
  -- No layer finds an overwrite to apply, and a timeout masks in the end as it does in the guild.
  have missing (kind : OverwriteKind) (id : Snowflake) :
      Overwrites.find? ∅ kind id = Option.none := rfl
  have applied : (roleIds.filter (· != guildId)).filterMap (Overwrites.role? ∅) = [] :=
    List.filterMap_eq_nil_iff.2 fun id _ => missing .role id
  simp only [inChannel, plain, applied, Overwrites.role?, Overwrites.member?, missing,
    List.foldl_nil, denyThenAllow_none, Bool.false_eq_true, if_false]

end Permissions

namespace Cache

open Permission

variable {c : Cache} {ch ch' : Channel} {p : Channel} {t : ThreadChannel}

theorem overwritesFor_of_not_thread (notThread : ch.isThread = false) :
    c.overwritesFor ch = ch.overwrites := by
  cases ch
  case thread t => cases notThread
  all_goals rfl

theorem overwritesFor_thread (found : c.channels.get? t.parentId = some p) :
    c.overwritesFor (.thread t) = p.overwrites := by
  simp only [overwritesFor, found]

theorem overwritesFor_thread_eq_empty
    (parent : ∀ p, c.channels.get? t.parentId = some p → p.isThread = true) :
    c.overwritesFor (.thread t) = ∅ := by
  cases found : c.channels.get? t.parentId with
  | none =>
    simp only [overwritesFor, found]
    rfl
  | some p =>
    rw [overwritesFor_thread found]
    -- The store may hold a thread in a thread, though it has no overwrites to pass on.
    have thread := parent p found
    cases p
    case thread => rfl
    all_goals cases thread

theorem memberPermissionsIn_congr (guild : ch'.guildId = ch.guildId)
    (overwrites : c.overwritesFor ch' = c.overwritesFor ch) (now : Timestamp) (m : Member) :
    c.memberPermissionsIn now ch' m = c.memberPermissionsIn now ch m := by
  rw [memberPermissionsIn, memberPermissionsIn, guild, overwrites]

theorem memberPermissionsIn_of_empty (none : c.overwritesFor ch = ∅) (now : Timestamp)
    (m : Member) : c.memberPermissionsIn now ch m = c.memberPermissions now m := by
  rw [memberPermissionsIn_eq, memberPermissions, basePermissions_eq]
  cases free : c.holdsAll m with
  | true => rfl
  | false =>
    -- A member that does not hold everything is no administrator, so the layers are gone through.
    have plain : (c.rolePermissions m).has administrator = false :=
      (Bool.or_eq_false_iff.1 free).2
    have granted : c.grantedIn ch m = c.rolePermissions m := by
      rw [grantedIn, none]
      exact Permissions.inChannel_empty plain
    rw [granted]

/--
In a thread a member has the permissions that it has in the cached parent, if that is of the
thread's guild and no thread itself. It has those of the guild if the parent is not cached or is a
thread. Nothing else about the thread makes a difference, not even whether it is cached.
-/
theorem thread_inherits (c : Cache) (now : Timestamp) (m : Member) (t : ThreadChannel) :
    (∀ p, c.channels.get? t.parentId = some p → p.isThread = false → p.guildId = t.guildId →
      c.memberPermissionsIn now (.thread t) m = c.memberPermissionsIn now p m) ∧
    (c.channels.get? t.parentId = none ∨
        (∃ p, c.channels.get? t.parentId = some p ∧ p.isThread = true) →
      c.memberPermissionsIn now (.thread t) m = c.memberPermissions now m) ∧
    ∀ t' : ThreadChannel, t'.parentId = t.parentId → t'.guildId = t.guildId →
      c.memberPermissionsIn now (.thread t') m = c.memberPermissionsIn now (.thread t) m := by
  refine ⟨?_, ?_, ?_⟩
  · intro p found notThread guild
    have sameGuild : (Channel.thread t).guildId = p.guildId := guild.symm
    have overwrites : c.overwritesFor (.thread t) = c.overwritesFor p := by
      rw [overwritesFor_thread found, overwritesFor_of_not_thread notThread]
    exact memberPermissionsIn_congr sameGuild overwrites now m
  · intro parent
    refine memberPermissionsIn_of_empty (overwritesFor_thread_eq_empty ?_) now m
    rintro p found
    rcases parent with missing | ⟨p', found', thread⟩
    · rw [missing] at found
      cases found
    · rw [found'] at found
      cases found
      exact thread
  · intro t' parent guild
    have sameGuild : (Channel.thread t').guildId = (Channel.thread t).guildId := guild
    have overwrites : c.overwritesFor (.thread t') = c.overwritesFor (.thread t) := by
      simp only [overwritesFor, parent]
      rfl
    exact memberPermissionsIn_congr sameGuild overwrites now m

/--
A thread below a forum, which has overwrites for the member and its role, and a thread that names
the first one as its parent. Neither of the two is cached at first, and the first one is later.
-/
theorem thread_inherits_of_forum :
    let role (id : Snowflake) (permission : Permission) : Role :=
      { id, guildId := 1, name := "", permissions := .only permission }
    let entry (kind : OverwriteKind) (id : Snowflake) (allow deny : Permission) : Overwrite :=
      { id, kind, allow := .only allow, deny := .only deny }
    let overwrites : Overwrites := ⟨[entry .role 5 12 11, entry .member 2 13 10]⟩
    let forum : Channel := .forum { id := 3, guildId := 1, name := "", overwrites }
    let thread (id parentId : Snowflake) : ThreadChannel :=
      { id, guildId := 1, parentId, kind := .publicThread, name := "" }
    let renamed : ThreadChannel := { thread 6 3 with kind := .privateThread, name := "x" }
    let m : Member := { guildId := 1, user := { id := 2, username := "" }, roles := [5] }
    let c := { (empty .all).addChannel forum with
      roles := (GroupedStore.empty true).addAll [role 1 10, role 5 11] }
    let c' := c.addChannel (.thread (thread 4 3))
    c.memberPermissionsIn .epoch (.thread (thread 4 3)) m = c.memberPermissionsIn .epoch forum m ∧
      c.memberPermissionsIn .epoch forum m = .only 12 ∪ .only 13 ∧
      c.memberPermissionsIn .epoch (.thread (thread 5 4)) m = c.memberPermissions .epoch m ∧
      c'.memberPermissionsIn .epoch (.thread (thread 5 4)) m = c'.memberPermissions .epoch m ∧
      c.memberPermissions .epoch m = .only 10 ∪ .only 11 ∧
      c.memberPermissionsIn .epoch (.thread renamed) m =
        c.memberPermissionsIn .epoch (.thread (thread 4 3)) m := by
  intro role entry overwrites forum thread renamed m c c'
  obtain ⟨ofForum, -, same⟩ := thread_inherits c .epoch m (thread 4 3)
  have uncached := (thread_inherits c .epoch m (thread 5 4)).2.1 (.inl rfl)
  have nested := (thread_inherits c' .epoch m (thread 5 4)).2.1 (.inr ⟨_, rfl, rfl⟩)
  exact ⟨ofForum forum rfl rfl rfl, by decide, uncached, nested, by decide, same renamed rfl rfl⟩

end Cache

end GatewayCache
