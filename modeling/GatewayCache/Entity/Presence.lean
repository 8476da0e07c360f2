import GatewayCache.Codec.Layout
import GatewayCache.Snowflake

/-! What a user is doing in a guild: online status and voice session. -/
namespace GatewayCache

/-- How available a user shows itself. -/
inductive OnlineStatus where
  | online
  | idle
  | dnd
  | invisible
  | offline
deriving DecidableEq, Inhabited

namespace OnlineStatus

def all : List OnlineStatus := [online, idle, dnd, invisible, offline]

def name : OnlineStatus → String
  | online => "online"
  | idle => "idle"
  | dnd => "dnd"
  | invisible => "invisible"
  | offline => "offline"

def codec : Codec OnlineStatus := .named all name

end OnlineStatus

/-- A user's status within one guild. -/
structure Presence where
  userId : Snowflake
  guildId : Snowflake
  status : OnlineStatus := .offline
  activities : List String := []
deriving DecidableEq, Inhabited

def Presence.layout : Layout Presence :=
  Layout.as
    (.and (.required "user_id" .word64) <| .and (.withDefault "guild_id" .word64 0) <|
      .and (.withDefault "status" OnlineStatus.codec .offline) <| .list "activities" .string)
    (fun (userId, guildId, status, activities) => { userId, guildId, status, activities })
    (fun p => (p.userId, p.guildId, p.status, p.activities))

/-- A user's voice session in one guild; without a channel the user is disconnected. -/
structure VoiceState where
  guildId : Snowflake
  channelId : Option Snowflake
  userId : Snowflake
  sessionId : String := ""
  mute : Bool := false
  deaf : Bool := false
  selfMute : Bool := false
  selfDeaf : Bool := false
  selfStream : Bool := false
  selfVideo : Bool := false
  suppress : Bool := false
deriving DecidableEq, Inhabited

namespace VoiceState

/-- Muted by the server or by the user. -/
def isMuted (v : VoiceState) : Bool := v.mute || v.selfMute

/-- Deafened by the server or by the user. -/
def isDeafened (v : VoiceState) : Bool := v.deaf || v.selfDeaf

def isConnected (v : VoiceState) : Bool := v.channelId.isSome

def layout : Layout VoiceState :=
  Layout.as
    (.and (.withDefault "guild_id" .word64 0) <| .and (.nullable "channel_id" .word64) <|
      .and (.required "user_id" .word64) <| .and (.withDefault "session_id" .string "") <|
      .and (.withDefault "mute" .bool false) <| .and (.withDefault "deaf" .bool false) <|
      .and (.withDefault "self_mute" .bool false) <| .and (.withDefault "self_deaf" .bool false) <|
      .and (.withDefault "self_stream" .bool false) <|
      .and (.withDefault "self_video" .bool false) <| .withDefault "suppress" .bool false)
    (fun (guildId, channelId, userId, sessionId, mute, deaf, selfMute, selfDeaf, selfStream,
        selfVideo, suppress) =>
      { guildId, channelId, userId, sessionId, mute, deaf, selfMute, selfDeaf, selfStream,
        selfVideo, suppress })
    (fun v => (v.guildId, v.channelId, v.userId, v.sessionId, v.mute, v.deaf, v.selfMute,
      v.selfDeaf, v.selfStream, v.selfVideo, v.suppress))

end VoiceState

end GatewayCache
