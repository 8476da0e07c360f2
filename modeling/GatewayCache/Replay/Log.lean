import GatewayCache.Apply.Event

/-! What the cache and the replay report: log records, and which of them are shown. -/
namespace GatewayCache

/-- How important a record is. -/
inductive Log.Level where
  | error
  | warn
  | info
  | debug
  | trace
deriving DecidableEq

/-- A record of the log; its fields are in the order in which they are shown. -/
structure Log.Record where
  level : Log.Level
  target : String
  message : String
  fields : List (String × String)
deriving DecidableEq

namespace Log

/-- The target of what the program itself reports, which log settings may name. -/
def program : String := "guildcache"

namespace Level

/-- From the most important level down. -/
def all : List Level := [error, warn, info, debug, trace]

def name : Level → String
  | error => "ERROR"
  | warn => "WARN"
  | info => "INFO"
  | debug => "DEBUG"
  | trace => "TRACE"

/-- How much has to be shown for a record of this level to be among it; 0 shows nothing. -/
def rank (l : Level) : Nat := l.ctorIdx + 1

end Level

namespace Record

/-- The names of the parts that a record is made of. -/
def keys (r : Record) : List String := "message" :: r.fields.map (·.1)

/-- A record as one line: level, target, message and fields. -/
def render (r : Record) : String :=
  r.level.name ++ " " ++ r.target ++ ": " ++ r.message ++
    String.join (r.fields.map fun (key, value) => " " ++ key ++ "=" ++ value)

/-- A record as a line of the log: the time stands in front, and levels end flush. -/
def line (now : Timestamp) (r : Record) : String :=
  now.render ++ String.ofList (List.replicate (6 - r.level.name.length) ' ') ++ r.render

end Record

/-! ### Field values -/

def ofId (id : Snowflake) : String := toString id

def ofCount (n : Nat) : String := toString n

def ofBool (b : Bool) : String := if b then "true" else "false"

/-- Names as a field value, each in quotes. -/
def ofNames (names : List String) : String :=
  "[" ++ String.intercalate ", " (names.map fun n => "\"" ++ n ++ "\"") ++ "]"

end Log

namespace Cache

open Log (Record ofId ofCount ofBool ofNames)

private def guildTarget : String := "guildcache::caches::guilds"
private def eventTarget : String := "guildcache::caches::handle"

def initialised (retention : Retention) : Record :=
  ⟨.info, "guildcache::caches", "cache initialised", [("retain", ofNames retention.names)]⟩

/-- The record of a guild that becomes unready or ready, if it does. -/
def readinessRecord (unready : IdSet) (guildId : Snowflake) (on : Bool) : List Record :=
  if unready.changes guildId on then
    [⟨.debug, guildTarget, "guild readiness changed",
      [("guild_id", ofId guildId), ("unready", ofBool on)]⟩]
  else []

/-- The record of a guild that becomes unavailable or available, if it does. -/
def availabilityRecord (unavailable : IdSet) (guildId : Snowflake) (on : Bool) : List Record :=
  if unavailable.changes guildId on then
    [⟨.debug, guildTarget, "guild availability changed",
      [("guild_id", ofId guildId), ("unavailable", ofBool on)]⟩]
  else []

/-- The records of guilds that become unready one after the other. -/
def unreadyRecords (unready : IdSet) : List Snowflake → List Record
  | [] => []
  | id :: ids => readinessRecord unready id true ++ unreadyRecords (unready.set id true) ids

/-- What an event reports apart from its name, when it is applied to the cache. -/
def effectRecords (now : Timestamp) (c : Cache) : Event → List Record
  | .ready e =>
    unreadyRecords c.unready (e.guilds.map (·.id)) ++
      [⟨.info, eventTarget, "session ready",
        [("user_id", ofId e.user.id), ("guilds", ofCount e.guilds.length)]⟩]
  | .guildCreate e =>
    let id := e.guild.id
    readinessRecord c.unready id false ++ availabilityRecord c.unavailable id false ++
      [⟨.debug, eventTarget, "guild hydrated", [
        ("guild_id", ofId id),
        ("channels", ofCount (e.channels.length + e.threads.length)),
        ("roles", ofCount e.roles.length),
        ("members", ofCount e.members.length),
        ("was_unready", ofBool (c.unready.contains id)),
        ("was_unavailable", ofBool (c.unavailable.contains id))]⟩]
  | .guildDelete e =>
    (if e.unavailable then availabilityRecord c.unavailable e.id true
      else readinessRecord c.unready e.id false ++ availabilityRecord c.unavailable e.id false) ++
      [⟨.info, eventTarget, "guild removed", [
        ("guild_id", ofId e.id),
        ("unavailable", ofBool e.unavailable),
        ("channels", ofCount (c.channels.takeGuild e.id).1.length)]⟩]
  | .channelUpdate e =>
    let stored := c.addChannel e.current
    if e.current.hidesThreads && stored.hidesFromSelf now e.current then
      [⟨.debug, eventTarget, "channel no longer visible, dropped its threads", [
        ("channel_id", ofId e.current.id),
        ("threads", ofCount (stored.threadsIn e.current.id).length)]⟩]
    else []
  | .threadListSync e =>
    [⟨.debug, eventTarget, "thread list synced", [
      ("guild_id", ofId e.guildId),
      ("threads", ofCount e.threads.length),
      ("members", ofCount e.members.length)]⟩]
  | .guildMembersChunk e =>
    [⟨.debug, eventTarget, "member chunk applied", [
      ("guild_id", ofId e.guildId),
      ("chunk", toString e.chunkIndex),
      ("of", toString e.chunkCount),
      ("members", ofCount e.members.length)]⟩]
  | _ => []

/-- What an event reports when it is applied to the cache. -/
def eventRecords (now : Timestamp) (c : Cache) (e : Event) : List Record :=
  ⟨.trace, eventTarget, "applying event", [("event", "\"" ++ e.name ++ "\"")]⟩ ::
    c.effectRecords now e

end Cache

end GatewayCache
