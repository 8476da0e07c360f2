import GatewayCache.Entity.User

/-! Messages. -/
namespace GatewayCache

/-- A message in a channel. -/
structure Message where
  id : Snowflake
  channelId : Snowflake
  guildId : Option Snowflake := none
  author : User
  content : String
  timestamp : Timestamp
  editedAt : Option Timestamp := none
  pinned : Bool := false
  tts : Bool := false
deriving DecidableEq, Inhabited

def Message.layout : Layout Message :=
  Layout.as
    (.and (.required "id" .word64) <| .and (.required "channel_id" .word64) <|
      .and (.optional "guild_id" .word64) <| .and (.required "author" User.layout.codec) <|
      .and (.withDefault "content" .string "") <| .and (.required "timestamp" .timestamp) <|
      .and (.optional "edited_timestamp" .timestamp) <|
      .and (.withDefault "pinned" .bool false) <| .withDefault "tts" .bool false)
    (fun (id, channelId, guildId, author, content, timestamp, editedAt, pinned, tts) =>
      { id, channelId, guildId, author, content, timestamp, editedAt, pinned, tts })
    (fun m => (m.id, m.channelId, m.guildId, m.author, m.content, m.timestamp, m.editedAt,
      m.pinned, m.tts))

end GatewayCache
