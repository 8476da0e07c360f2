import GatewayCache.Codec.Layout
import GatewayCache.Snowflake

/-! Users, and the user that the connection belongs to. -/
namespace GatewayCache

/-- An account on the platform. -/
structure User where
  id : Snowflake
  username : String
  globalName : Option String := none
  avatar : Option String := none
  bot : Bool := false
deriving DecidableEq, Inhabited

def User.layout : Layout User :=
  Layout.as
    (.and (.required "id" .word64) <| .and (.required "username" .string) <|
      .and (.optional "global_name" .string) <| .and (.optional "avatar" .string) <|
      .withDefault "bot" .bool false)
    (fun (id, username, globalName, avatar, bot) => { id, username, globalName, avatar, bot })
    (fun u => (u.id, u.username, u.globalName, u.avatar, u.bot))

/-- The user that the connection is authenticated as. -/
structure SelfUser where
  user : User
  mfaEnabled : Bool := false
  verified : Bool := false
  locale : Option String := none
deriving DecidableEq, Inhabited

namespace SelfUser

def id (me : SelfUser) : Snowflake := me.user.id

/-- The user's own keys and those of the session stand in one object. -/
def layout : Layout SelfUser :=
  Layout.as
    (.beside User.layout <| .and (.withDefault "mfa_enabled" .bool false) <|
      .and (.withDefault "verified" .bool false) <| .optional "locale" .string)
    (fun (user, mfaEnabled, verified, locale) => { user, mfaEnabled, verified, locale })
    (fun u => (u.user, u.mfaEnabled, u.verified, u.locale))

end SelfUser

end GatewayCache
