import GatewayCache.Permissions.Overwrite

/-! What a member may do: in the guild by its roles, and in a channel after its overwrites. -/
namespace GatewayCache.Permissions

open Permission

/-- What a member with an active timeout keeps, whatever roles and overwrites say. -/
def keptInTimeout : Permissions := only viewChannel ∪ only readMessageHistory

/-- The permissions left by the timeout, if there is one. -/
def afterTimeout (timedOut : Bool) (s : Permissions) : Permissions :=
  if timedOut then s ∩ keptInTimeout else s

/-- Adds role after role to what is granted; nothing is left to add once an administrator is found. -/
def addRoles (granted : Permissions) : List Permissions → Option Permissions
  | [] => if granted.has administrator then Option.none else some granted
  | role :: roles =>
    if granted.has administrator then Option.none else addRoles (granted ∪ role) roles

/--
The permissions of a member in its guild. The owner has them all, and so has an administrator;
anyone else has those of the `@everyone` role, if it is known, and of each role, as far as a
timeout leaves them.
-/
def inGuild (owner : Bool) (everyone : Option Permissions) (roles : List Permissions)
    (timedOut : Bool) : Permissions :=
  if owner then all
  else
    match addRoles (everyone.getD none) roles with
    | Option.none => all
    | some granted => granted.afterTimeout timedOut

/-- Applies an overwrite with the denials first, so that what it allows stays. -/
def denyThenAllow (s : Permissions) (allow deny : Permissions) : Permissions :=
  s.without deny ∪ allow

/-- Applies an overwrite with the grants first, so that what it denies goes. -/
def allowThenDeny (s : Permissions) (allow deny : Permissions) : Permissions :=
  (s ∪ allow).without deny

/--
The permissions of a member in a channel, from its permissions in the guild. Three layers of
overwrites follow each other: the one for `@everyone`, whose target has the guild's id, where a
denial wins; the union of those for the member's other roles, where a grant wins; and the
member's own, where a grant wins. An administrator passes all of them, and a timeout masks
the result.
-/
def inChannel (base : Permissions) (guildId : Snowflake) (roleIds : List Snowflake)
    (userId : Snowflake) (overwrites : Overwrites) (timedOut : Bool) : Permissions :=
  if base.has administrator then all
  else
    let general := match overwrites.role? guildId with
      | some o => base.allowThenDeny o.allow o.deny
      | Option.none => base
    -- The `@everyone` role has been applied above and does not count a second time.
    let applied := (roleIds.filter (· != guildId)).filterMap overwrites.role?
    let byRoles := general.denyThenAllow
      (applied.foldl (fun s o => s ∪ o.allow) none) (applied.foldl (fun s o => s ∪ o.deny) none)
    let own := match overwrites.member? userId with
      | some o => byRoles.denyThenAllow o.allow o.deny
      | Option.none => byRoles
    own.afterTimeout timedOut

end GatewayCache.Permissions
