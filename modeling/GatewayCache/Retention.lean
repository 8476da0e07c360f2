import GatewayCache.Text.Blank

/-! Retention: which categories of entities the cache keeps, and how they are named. -/
namespace GatewayCache

/-- A category of cached entities. -/
inductive Category where
  | guilds
  | channels
  | roles
  | members
  | threadMembers
  | presences
  | voiceStates
  | messages
  | emojis
  | stickers
  | stageInstances
  | scheduledEvents
deriving DecidableEq

namespace Category

def all : List Category := [
  .guilds, .channels, .roles, .members, .threadMembers, .presences, .voiceStates, .messages,
  .emojis, .stickers, .stageInstances, .scheduledEvents]

/-- The name of a category in settings and logs. -/
def name : Category → String
  | guilds => "guilds"
  | channels => "channels"
  | roles => "roles"
  | members => "members"
  | threadMembers => "thread_members"
  | presences => "presences"
  | voiceStates => "voice_states"
  | messages => "messages"
  | emojis => "emojis"
  | stickers => "stickers"
  | stageInstances => "stage_instances"
  | scheduledEvents => "scheduled_events"

/-- The bit of a category in a retention word. -/
def bit (c : Category) : Nat := c.ctorIdx

end Category

/-- A set of categories to keep. -/
structure Retention where
  bits : BitVec 12
deriving DecidableEq

namespace Retention

def none : Retention := ⟨0⟩

def all : Retention := ⟨BitVec.allOnes 12⟩

def only (c : Category) : Retention := ⟨BitVec.twoPow 12 c.bit⟩

instance : Union Retention := ⟨fun a b => ⟨a.bits ||| b.bits⟩⟩

def keeps (r : Retention) (c : Category) : Bool := r.bits.getLsbD c.bit

/-- What is kept unless the settings say otherwise: all but the two high-volume categories. -/
def standard : Retention :=
  ⟨all.bits &&& ~~~(only .messages ∪ only .presences).bits⟩

instance : Inhabited Retention := ⟨standard⟩

/-- The set that a word stands for; bits without a meaning are dropped. -/
def ofWord (word : UInt32) : Retention := ⟨word.toBitVec.setWidth 12⟩

/-- The word that stands for a set. -/
def toWord (r : Retention) : UInt32 := ⟨r.bits.setWidth 32⟩

/-- The names of the categories kept, in bit order. -/
def names (r : Retention) : List String := (Category.all.filter r.keeps).map Category.name

/--
Reads a category name, `all` or `none`. White space around it and the case of ASCII letters do
not count.
-/
def parse? (name : String) : Option Retention :=
  let name := Text.lowerAscii (Text.trim name)
  if name = "all" then some all
  else if name = "none" then some none
  else (Category.all.find? (·.name = name)).map only

/-- Reads a list of names as the union of their sets; fails with the first name not known. -/
def parseAll (names : List String) : Except String Retention :=
  names.foldlM (fun kept name =>
    match parse? name with
    | some more => .ok (kept ∪ more)
    | Option.none => .error name) none

end Retention

end GatewayCache
