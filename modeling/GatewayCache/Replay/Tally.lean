import GatewayCache.Codec.Text
import GatewayCache.Replay.Log

/-!
Replaying lines: each is blank, an event or neither. Events are applied in order, and a line that is
neither leaves no trace in the cache.
-/
namespace GatewayCache.Replay

open Log (Record ofCount)

/-- What a line of the file of events is. -/
inductive Entry where
  | blank
  | event (e : Event)
  | undecodable (cause : DecodeError)
deriving DecidableEq

/-- What a line says. -/
def Entry.ofLine (line : String) : Entry :=
  if Text.allBlank line then .blank
  else match Event.codec.decodeText line with
    | .ok e => .event e
    | .error cause => .undecodable cause

/-- What a replay has come to. -/
structure Tally where
  cache : Cache
  applied : Nat
  /-- The number of lines that are neither blank nor an event. -/
  skipped : Nat

namespace Tally

def start (retention : Retention) : Tally := ⟨.empty retention, 0, 0⟩

/-- Goes on by one line at the time `now`. -/
def add (now : Timestamp) (t : Tally) : Entry → Tally
  | .blank => t
  | .event e => { t with cache := (t.cache.apply now e).1, applied := t.applied + 1 }
  | .undecodable _ => { t with skipped := t.skipped + 1 }

/-- What is reported about the line with the given number. -/
def records (now : Timestamp) (t : Tally) (number : Nat) : Entry → List Record
  | .blank => []
  | .event e => t.cache.eventRecords now e
  | .undecodable cause =>
    [⟨.warn, Log.program, "skipping undecodable event",
      [("line", ofCount number), ("error", cause.reason)]⟩]

/-- Goes on by several lines, the first of which has the given number. -/
def addLines (now : Timestamp) (number : Nat) (t : Tally) : List String → Tally × List Record
  | [] => (t, [])
  | line :: lines =>
    let entry := Entry.ofLine line
    let (last, records) := (t.add now entry).addLines now (number + 1) lines
    (last, t.records now number entry ++ records)

theorem fst_addLines (now : Timestamp) (number : Nat) (t : Tally) (lines : List String) :
    (t.addLines now number lines).1 = lines.foldl (fun t line => t.add now (.ofLine line)) t := by
  induction lines generalizing number t with
  | nil => rfl
  | cons line lines ih => exact ih (number + 1) (t.add now (.ofLine line))

/-- The record at the end of a replay. -/
def summary (t : Tally) : Record :=
  let c := t.cache
  ⟨.info, Log.program, "replay finished", [
    ("applied", ofCount t.applied),
    ("skipped", ofCount t.skipped),
    ("guilds", ofCount c.guilds.size),
    ("channels", ofCount c.channels.size),
    ("roles", ofCount c.roles.size),
    ("members", ofCount c.members.size),
    ("presences", ofCount c.presences.size),
    ("voice_states", ofCount c.voiceStates.size),
    ("messages", ofCount c.messages.size)]⟩

end Tally

end GatewayCache.Replay
