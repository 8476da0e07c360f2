import GatewayCache.Codec.Layout
import GatewayCache.Snowflake

/-! Guilds, and the stubs that stand for them before they are known. -/
namespace GatewayCache

/-- A community, the owner of channels, roles and members. -/
structure Guild where
  id : Snowflake
  name : String
  ownerId : Snowflake
  icon : Option String := none
  description : Option String := none
  memberCount : UInt32 := 0
  joinedAt : Option Timestamp := none
  large : Bool := false
deriving DecidableEq, Inhabited

def Guild.layout : Layout Guild :=
  Layout.as
    (.and (.required "id" .word64) <| .and (.required "name" .string) <|
      .and (.required "owner_id" .word64) <| .and (.optional "icon" .string) <|
      .and (.optional "description" .string) <| .and (.withDefault "member_count" .word32 0) <|
      .and (.optional "joined_at" .timestamp) <| .withDefault "large" .bool false)
    (fun (id, name, ownerId, icon, description, memberCount, joinedAt, large) =>
      { id, name, ownerId, icon, description, memberCount, joinedAt, large })
    (fun g => (g.id, g.name, g.ownerId, g.icon, g.description, g.memberCount, g.joinedAt, g.large))

/-- A guild that is only announced. -/
structure GuildStub where
  id : Snowflake
  unavailable : Bool
deriving DecidableEq, Inhabited

def GuildStub.layout : Layout GuildStub :=
  Layout.as
    (.and (.required "id" .word64) <| .withDefault "unavailable" .bool false)
    (fun (id, unavailable) => { id, unavailable })
    (fun g => (g.id, g.unavailable))

end GatewayCache
