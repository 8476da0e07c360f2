import GatewayCache.Entity.User

/-! Members of guilds and of threads. -/
namespace GatewayCache

/-- A user's membership in one guild. -/
structure Member where
  guildId : Snowflake
  user : User
  nick : Option String := none
  roles : List Snowflake := []
  joinedAt : Option Timestamp := none
  pending : Bool := false
  /-- The end of the member's timeout, if it ever had one. -/
  timeoutEnd : Option Timestamp := none
deriving DecidableEq, Inhabited

namespace Member

def userId (m : Member) : Snowflake := m.user.id

/-- Whether a timeout is in effect at `now`; one that has ended counts no more. -/
def timedOutAt (m : Member) (now : Timestamp) : Bool := m.timeoutEnd.any fun last => now < last

/-- The membership without a role. -/
def withoutRole (m : Member) (roleId : Snowflake) : Member :=
  { m with roles := m.roles.filter (· != roleId) }

def layout : Layout Member :=
  Layout.as
    (.and (.withDefault "guild_id" .word64 0) <| .and (.required "user" User.layout.codec) <|
      .and (.optional "nick" .string) <| .and (.list "roles" .word64) <|
      .and (.optional "joined_at" .timestamp) <| .and (.withDefault "pending" .bool false) <|
      .optional "communication_disabled_until" .timestamp)
    (fun (guildId, user, nick, roles, joinedAt, pending, timeoutEnd) =>
      { guildId, user, nick, roles, joinedAt, pending, timeoutEnd })
    (fun m => (m.guildId, m.user, m.nick, m.roles, m.joinedAt, m.pending, m.timeoutEnd))

end Member

/-- A user's membership in one thread. -/
structure ThreadMember where
  threadId : Snowflake
  userId : Snowflake
  joinedAt : Option Timestamp := none
  flags : UInt32 := 0
deriving DecidableEq, Inhabited

def ThreadMember.layout : Layout ThreadMember :=
  Layout.as
    (.and (.withDefault "id" .word64 0) <| .and (.withDefault "user_id" .word64 0) <|
      .and (.optional "join_timestamp" .timestamp) <| .withDefault "flags" .word32 0)
    (fun (threadId, userId, joinedAt, flags) => { threadId, userId, joinedAt, flags })
    (fun m => (m.threadId, m.userId, m.joinedAt, m.flags))

end GatewayCache
