import GatewayCache.Replay.Filter
import GatewayCache.Replay.Invocation
import GatewayCache.Replay.Lines
import GatewayCache.Replay.Tally
import GatewayCache.Settings

/-! Whole replays, from the settings and the file of events to what is reported. -/
namespace GatewayCache.Replay

open Log (Filter Record ofBool ofCount ofId)

/-- What the program is asked for. The setting of the log is read before the command line. -/
def start (logSetting : Option String) (words : List String) :
    Except Stop (Filter × Invocation) :=
  match Filter.ofSetting? logSetting with
  | none => .error .logSetting
  | some filter => (Invocation.ofWords words).map (filter, ·)

/-- What a replay finds around it. -/
structure Surroundings where
  now : Timestamp
  /-- The value of the variable that overrides the settings file. -/
  retain : Option String
  settingsFile : FileState
  eventsFile : FileState

/-- Why a replay does not come to its end. -/
inductive Failure where
  | settings (path : String) (cause : Settings.LoadError)
  /-- The file of events is not there, or cannot be opened. -/
  | unopened (path : String)
  /-- The file of events is there and has a line that is no text. -/
  | unreadable (path : String)
deriving DecidableEq

def Failure.message : Failure → String
  | settings path cause => cause.message path
  | unopened path => "failed to open " ++ path
  | unreadable path => "failed to read " ++ path

/-- What a replay reports. -/
structure Outcome where
  log : List Record
  failure : Option Failure

namespace Outcome

def exitCode (o : Outcome) : UInt32 := if o.failure.isSome then 1 else 0

/-- The line that tells of the failure. -/
def errorLine (o : Outcome) : Option String := o.failure.map fun f => "Error: " ++ f.message

end Outcome

/-- The record of a settings file that is not there. -/
def noSettings (path : String) : Record :=
  ⟨.info, "guildcache::config", "no config file found, using defaults", [("path", path)]⟩

/-- What is reported about a guild after the replay. -/
def guildRecords (now : Timestamp) (c : Cache) (guildId : Snowflake) : List Record :=
  match c.guilds.get? guildId with
  | none => [⟨.warn, Log.program, "guild not cached", [("guild_id", ofId guildId)]⟩]
  | some g =>
    let size {V : Type} (s : GroupedStore V) : String := ofCount (s.groupSize guildId)
    let permissions := (c.selfMember? guildId).map fun me =>
      ⟨.info, Log.program, "current user permissions", [
        ("guild_id", ofId guildId),
        ("permissions", toString (c.memberPermissions now me).toWord)]⟩
    ⟨.info, Log.program, "guild summary", [
      ("guild_id", ofId guildId),
      ("name", g.name),
      ("member_count", toString g.memberCount),
      ("unready", ofBool (c.unready.contains guildId)),
      ("unavailable", ofBool (c.unavailable.contains guildId)),
      ("channels", ofCount (c.channels.ofGuild guildId).length),
      ("roles", size c.roles),
      ("members", size c.members),
      ("voice_states", size c.voiceStates),
      ("emojis", size c.emojis),
      ("stickers", size c.stickers),
      ("stage_instances", size c.stageInstances),
      ("scheduled_events", size c.scheduledEvents)]⟩ :: permissions.toList

/-- Replays the content of a file of events, and reports on a guild if one is asked for. -/
def runFile (now : Timestamp) (inv : Invocation) (retention : Retention) (bytes : ByteArray) :
    Outcome :=
  let lines := Lines.ofBytes bytes
  let (tally, records) := (Tally.start retention).addLines now 1 lines.texts
  if lines.complete then
    let report := match inv.guild with
      | some guildId => guildRecords now tally.cache guildId
      | none => []
    ⟨records ++ tally.summary :: report, none⟩
  else ⟨records, some (.unreadable inv.events)⟩

/-- Replays the file of events into a new cache. -/
def runEvents (s : Surroundings) (inv : Invocation) (retention : Retention) : Outcome :=
  match s.eventsFile with
  | .absent | .locked => ⟨[], some (.unopened inv.events)⟩
  | .directory => ⟨[], some (.unreadable inv.events)⟩
  | .content bytes => runFile s.now inv retention bytes

/-- Carries out an invocation. -/
def run (s : Surroundings) (inv : Invocation) : Outcome :=
  let notice := match s.settingsFile with
    | .absent => [noSettings inv.settings]
    | .directory | .locked | .content _ => []
  match Settings.load s.settingsFile s.retain with
  | .error cause => ⟨notice, some (.settings inv.settings cause)⟩
  | .ok retention =>
    let outcome := runEvents s inv retention
    { outcome with log := notice ++ Cache.initialised retention :: outcome.log }

end GatewayCache.Replay
