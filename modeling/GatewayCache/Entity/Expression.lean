import GatewayCache.Codec.Layout
import GatewayCache.Snowflake

/-! Expressions of a guild: emojis and stickers. -/
namespace GatewayCache

/-- A custom emoji of a guild. -/
structure Emoji where
  id : Snowflake
  guildId : Snowflake
  name : String
  roles : List Snowflake := []
  animated : Bool := false
  available : Bool := true
deriving DecidableEq, Inhabited

def Emoji.layout : Layout Emoji :=
  Layout.as
    (.and (.required "id" .word64) <| .and (.withDefault "guild_id" .word64 0) <|
      .and (.required "name" .string) <| .and (.list "roles" .word64) <|
      .and (.withDefault "animated" .bool false) <| .withDefault "available" .bool true)
    (fun (id, guildId, name, roles, animated, available) =>
      { id, guildId, name, roles, animated, available })
    (fun e => (e.id, e.guildId, e.name, e.roles, e.animated, e.available))

/-- A sticker. A standard one has no guild and is not cached. -/
structure Sticker where
  id : Snowflake
  guildId : Option Snowflake
  name : String
  description : Option String := none
  tags : String := ""
  available : Bool := true
deriving DecidableEq, Inhabited

def Sticker.layout : Layout Sticker :=
  Layout.as
    (.and (.required "id" .word64) <| .and (.optional "guild_id" .word64) <|
      .and (.required "name" .string) <| .and (.optional "description" .string) <|
      .and (.withDefault "tags" .string "") <| .withDefault "available" .bool true)
    (fun (id, guildId, name, description, tags, available) =>
      { id, guildId, name, description, tags, available })
    (fun s => (s.id, s.guildId, s.name, s.description, s.tags, s.available))

end GatewayCache
