import GatewayCache.Entity.Expression
import GatewayCache.Entity.Member
import GatewayCache.Entity.Message
import GatewayCache.Entity.Occasion
import GatewayCache.Entity.Presence
import GatewayCache.Entity.Role
import GatewayCache.Store.Grouped

/-! Entities that are filed under the id of an owner, because their own id is unique only there. -/
namespace GatewayCache

/-- An entity that belongs to an owner. -/
class Filed (V : Type) where
  /-- What such an entity is called. -/
  kind : String
  /-- The owner's id, if the entity names one. -/
  owner? : V → Option Snowflake
  key : V → Snowflake

instance : Filed Role := ⟨"role", fun r => some r.guildId, (·.id)⟩
instance : Filed Member := ⟨"member", fun m => some m.guildId, (·.userId)⟩
instance : Filed ThreadMember := ⟨"thread_member", fun m => some m.threadId, (·.userId)⟩
instance : Filed Presence := ⟨"presence", fun p => some p.guildId, (·.userId)⟩
instance : Filed VoiceState := ⟨"voice_state", fun v => some v.guildId, (·.userId)⟩
instance : Filed Message := ⟨"message", fun m => some m.channelId, (·.id)⟩
instance : Filed Emoji := ⟨"emoji", fun e => some e.guildId, (·.id)⟩
instance : Filed Sticker := ⟨"sticker", (·.guildId), (·.id)⟩
instance : Filed StageInstance := ⟨"stage_instance", fun s => some s.guildId, (·.id)⟩
instance : Filed ScheduledEvent := ⟨"scheduled_event", fun e => some e.guildId, (·.id)⟩

namespace GroupedStore

variable {V : Type} [Filed V]

/-- Files an entity under its owner and its own id. One without an owner is not kept. -/
def add (s : GroupedStore V) (value : V) : GroupedStore V :=
  match Filed.owner? value with
  | some owner => s.put owner (Filed.key value) value
  | none => s

def addAll (s : GroupedStore V) (values : List V) : GroupedStore V := values.foldl add s

end GroupedStore

end GatewayCache
