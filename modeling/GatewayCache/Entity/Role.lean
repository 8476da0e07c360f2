import GatewayCache.Codec.Layout
import GatewayCache.Snowflake

/-! Roles. -/
namespace GatewayCache

/-- A role of a guild. The `@everyone` role has the guild's id. -/
structure Role where
  id : Snowflake
  guildId : Snowflake
  name : String
  permissions : Permissions
  position : Int32 := 0
  color : UInt32 := 0
  hoist : Bool := false
  managed : Bool := false
  mentionable : Bool := false
deriving DecidableEq, Inhabited

namespace Role

/-- Whether every member of the guild has the role. -/
def isEveryone (r : Role) : Bool := r.id == r.guildId

def layout : Layout Role :=
  Layout.as
    (.and (.required "id" .word64) <| .and (.withDefault "guild_id" .word64 0) <|
      .and (.required "name" .string) <| .and (.withDefault "permissions" .permissions ∅) <|
      .and (.withDefault "position" .int32 0) <| .and (.withDefault "color" .word32 0) <|
      .and (.withDefault "hoist" .bool false) <| .and (.withDefault "managed" .bool false) <|
      .withDefault "mentionable" .bool false)
    (fun (id, guildId, name, permissions, position, color, hoist, managed, mentionable) =>
      { id, guildId, name, permissions, position, color, hoist, managed, mentionable })
    (fun r => (r.id, r.guildId, r.name, r.permissions, r.position, r.color, r.hoist, r.managed,
      r.mentionable))

end Role

end GatewayCache
