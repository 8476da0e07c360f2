import GatewayCache.Proofs.EffectivePermissions

/-!
Timeouts. A timeout is a mask on the answers that a member gets without it, laid over them once,
whatever roles and overwrites say; owners and administrators do not feel it.
-/
namespace GatewayCache

namespace Permissions

@[simp] theorem afterTimeout_false (s : Permissions) : s.afterTimeout false = s := rfl

@[simp] theorem afterTimeout_true (s : Permissions) : s.afterTimeout true = s ∩ keptInTimeout := rfl

end Permissions

namespace Member

/-- The membership as if it never had a timeout. -/
def withoutTimeout (m : Member) : Member := { m with timeoutEnd := none }

end Member

namespace Cache

open Permission Permissions

variable (c : Cache) (now : Timestamp) (ch : Channel) {m : Member}

/-- Who has not everything has what it would have without a timeout, masked while it lasts. -/
theorem memberPermissions_of_restricted (restricted : c.holdsAll m = false) :
    c.memberPermissions now m =
      (c.memberPermissions now m.withoutTimeout).afterTimeout (m.timedOutAt now) := by
  have restricted' : c.holdsAll m.withoutTimeout = false := restricted
  rw [memberPermissions, memberPermissions, basePermissions_eq, basePermissions_eq]
  simp only [restricted, restricted', Bool.false_eq_true, if_false]
  rfl

theorem memberPermissionsIn_of_restricted (restricted : c.holdsAll m = false) :
    c.memberPermissionsIn now ch m =
      (c.memberPermissionsIn now ch m.withoutTimeout).afterTimeout (m.timedOutAt now) := by
  have restricted' : c.holdsAll m.withoutTimeout = false := restricted
  rw [memberPermissionsIn_eq, memberPermissionsIn_eq]
  simp only [restricted, restricted', Bool.false_eq_true, if_false]
  rfl

theorem memberPermissions_of_holdsAll (free : c.holdsAll m = true) :
    c.memberPermissions now m = all := by
  rw [memberPermissions, basePermissions_eq, if_pos free]

theorem memberPermissionsIn_of_holdsAll (free : c.holdsAll m = true) :
    c.memberPermissionsIn now ch m = all := by
  rw [memberPermissionsIn_eq, if_pos free]

/--
The owner of a guild and its administrators have every permission, timeout or not. Anyone else has
during a timeout what it would have without one, cut down to seeing channels and reading what was
written before, and at other times just what it would have without one. So no overwrite gives more
than these two permissions during a timeout.
-/
theorem timeout_masks (c : Cache) (now : Timestamp) (m : Member) (ch : Channel) :
    let m₀ := m.withoutTimeout
    let free := c.isOwner m = true ∨ (c.rolePermissions m).has administrator = true
    (free →
      c.memberPermissions now m = all ∧ c.memberPermissions now m₀ = all ∧
      c.memberPermissionsIn now ch m = all ∧ c.memberPermissionsIn now ch m₀ = all) ∧
    (¬free → m.timedOutAt now = true →
      c.memberPermissions now m =
        c.memberPermissions now m₀ ∩ (only viewChannel ∪ only readMessageHistory) ∧
      c.memberPermissionsIn now ch m =
        c.memberPermissionsIn now ch m₀ ∩ (only viewChannel ∪ only readMessageHistory) ∧
      ∀ p, (c.memberPermissionsIn now ch m).has p = true →
        p = viewChannel ∨ p = readMessageHistory) ∧
    (¬free → m.timedOutAt now = false →
      c.memberPermissions now m = c.memberPermissions now m₀ ∧
      c.memberPermissionsIn now ch m = c.memberPermissionsIn now ch m₀) := by
  intro m₀ free
  -- A timeout changes neither ownership nor roles.
  have holdsAll₀ : c.holdsAll m₀ = c.holdsAll m := rfl
  have freeIff : c.holdsAll m = true ↔ free := by simp only [holdsAll, Bool.or_eq_true, free]
  have restrictedIff : c.holdsAll m = false ↔ ¬free := by rw [← freeIff, Bool.not_eq_true]
  refine ⟨?_, ?_, ?_⟩
  · intro isFree
    have holds := freeIff.2 isFree
    refine ⟨?_, ?_, ?_, ?_⟩
    · exact c.memberPermissions_of_holdsAll now holds
    · exact c.memberPermissions_of_holdsAll now (holdsAll₀.trans holds)
    · exact c.memberPermissionsIn_of_holdsAll now ch holds
    · exact c.memberPermissionsIn_of_holdsAll now ch (holdsAll₀.trans holds)
  · intro notFree timedOut
    have restricted := restrictedIff.2 notFree
    have inGuild := c.memberPermissions_of_restricted now restricted
    have inChannel := c.memberPermissionsIn_of_restricted now ch restricted
    rw [timedOut, afterTimeout_true] at inGuild inChannel
    refine ⟨inGuild, inChannel, ?_⟩
    intro p holds
    rw [inChannel, has_inter, Bool.and_eq_true] at holds
    exact has_keptInTimeout.1 holds.2
  · intro notFree notTimedOut
    have restricted := restrictedIff.2 notFree
    have inGuild := c.memberPermissions_of_restricted now restricted
    have inChannel := c.memberPermissionsIn_of_restricted now ch restricted
    rw [notTimedOut, afterTimeout_false] at inGuild inChannel
    exact ⟨inGuild, inChannel⟩

/-- An administrator in a timeout, and a member in one whose own overwrite allows it to write. -/
theorem timeout_masks_overwrite :
    let last : Timestamp := ⟨⟨⟨9999, 1, 1⟩, 0, 0, 0, 0⟩, by decide⟩
    let role (id : Snowflake) (permission : Permission) : Role :=
      { id, guildId := 1, name := "", permissions := .only permission }
    let c := { empty .all with
      roles := (GroupedStore.empty true).addAll [role 1 viewChannel, role 5 administrator] }
    let m : Member := { guildId := 1, user := { id := 2, username := "" }, timeoutEnd := last }
    let admin : Member := { m with roles := [5] }
    let writes : Overwrite := { id := 2, kind := .member, allow := .only 11, deny := ∅ }
    let ch : Channel := .text { id := 3, guildId := 1, name := "", overwrites := ⟨[writes]⟩ }
    c.memberPermissionsIn .epoch ch admin = all ∧
      m.timedOutAt .epoch = true ∧
      (c.memberPermissionsIn .epoch ch m.withoutTimeout).has 11 = true ∧
      c.memberPermissionsIn .epoch ch m = c.memberPermissionsIn .epoch ch m.withoutTimeout ∩
        (only viewChannel ∪ only readMessageHistory) ∧
      m.timedOutAt last = false ∧
      c.memberPermissionsIn last ch m = c.memberPermissionsIn last ch m.withoutTimeout := by
  intro last role c m admin writes ch
  have free : c.isOwner admin = true ∨ (c.rolePermissions admin).has administrator = true := by
    decide
  have notFree : ¬(c.isOwner m = true ∨ (c.rolePermissions m).has administrator = true) := by
    decide
  have active : m.timedOutAt .epoch = true := by decide
  have ended : m.timedOutAt last = false := by decide
  have ofAdmin := (timeout_masks c .epoch admin ch).1 free
  have during := (timeout_masks c .epoch m ch).2.1 notFree active
  have after := (timeout_masks c last m ch).2.2 notFree ended
  exact ⟨ofAdmin.2.2.1, active, by decide, during.2.1, ended, after.2⟩

end Cache

end GatewayCache
