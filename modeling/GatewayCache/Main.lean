import GatewayCache.Replay.Run
import Std.Time.DateTime

/-! The program: it reads the clock, variables and files, and prints what the replay reports. -/
namespace GatewayCache.Program

/-- The instant that the clock shows. -/
def clock : IO Timestamp := do
  let t := Std.Time.DateTime.ofTimestampWithZone (← Std.Time.Timestamp.now) .UTC
  let date := ⟨t.year.toInt, t.month.toNat, t.day.toNat⟩
  let civil := ⟨date, t.hour.toNat, t.minute.toNat, t.second.toNat, t.nanosecond.toNat⟩
  return (Timestamp.ofUtc? civil).getD .epoch

/-- What is at a path. A path that leads nowhere has no real one. -/
def stateAt (path : String) : IO FileState := do
  let found ← try some <$> IO.FS.realPath path catch _ => pure none
  match found with
  | none => return .absent
  | some file =>
    if ← file.isDir then return .directory
    try return .content (← IO.FS.readBinFile file) catch _ => return .locked

/-- How the program is called. -/
def usage : String := "Usage: guildcache [--config <CONFIG>] [--guild <GUILD>] <EVENTS>"

/-- Replays the file of events that the words of the command line name. -/
def run (words : List String) : IO UInt32 := do
  match Replay.start (← IO.getEnv "RUST_LOG") words with
  | .error stop =>
    match stop with
    | .usage => IO.eprintln usage
    | .information => IO.println usage
    | .logSetting => IO.eprintln "the setting of the log cuts characters apart"
    return stop.exitCode
  | .ok (filter, inv) =>
    let now ← clock
    let retain ← IO.getEnv Settings.retainVariable
    let settingsFile ← stateAt inv.settings
    let eventsFile ← stateAt inv.events
    let outcome := Replay.run { now, retain, settingsFile, eventsFile } inv
    for record in outcome.log do
      if filter.shows record then IO.println (record.line now)
    if let some line := outcome.errorLine then IO.eprintln line
    return outcome.exitCode

end GatewayCache.Program

def main (words : List String) : IO UInt32 := GatewayCache.Program.run words
