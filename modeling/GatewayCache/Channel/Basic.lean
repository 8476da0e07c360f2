import GatewayCache.Channel.Kinds

/-! Guild channels of every kind. -/
namespace GatewayCache

/-- A channel that lives in a guild. -/
inductive Channel where
  | text (c : TextChannel)
  | news (c : TextChannel)
  | voice (c : VoiceChannel)
  | stage (c : VoiceChannel)
  | category (c : CategoryChannel)
  | forum (c : ForumChannel)
  | media (c : ForumChannel)
  | thread (c : ThreadChannel)
deriving DecidableEq, Inhabited

inductive ChannelKind where
  | text
  | news
  | voice
  | stage
  | category
  | forum
  | media
  | thread
deriving DecidableEq

namespace ChannelKind

def all : List ChannelKind := [text, news, voice, stage, category, forum, media, thread]

def name : ChannelKind → String
  | text => "text"
  | news => "news"
  | voice => "voice"
  | stage => "stage"
  | category => "category"
  | forum => "forum"
  | media => "media"
  | thread => "thread"

def codec : Codec ChannelKind := .tag all name

end ChannelKind

namespace Channel

def kind : Channel → ChannelKind
  | text _ => .text
  | news _ => .news
  | voice _ => .voice
  | stage _ => .stage
  | category _ => .category
  | forum _ => .forum
  | media _ => .media
  | thread _ => .thread

/-! ### Parts that every channel has -/

def id : Channel → Snowflake
  | text c | news c => c.id
  | voice c | stage c => c.id
  | category c => c.id
  | forum c | media c => c.id
  | thread c => c.id

def guildId : Channel → Snowflake
  | text c | news c => c.guildId
  | voice c | stage c => c.guildId
  | category c => c.guildId
  | forum c | media c => c.guildId
  | thread c => c.guildId

def name : Channel → String
  | text c | news c => c.name
  | voice c | stage c => c.name
  | category c => c.name
  | forum c | media c => c.name
  | thread c => c.name

/-- The channel as one of the given guild. -/
def inGuild (guildId : Snowflake) : Channel → Channel
  | text c => text { c with guildId }
  | news c => news { c with guildId }
  | voice c => voice { c with guildId }
  | stage c => stage { c with guildId }
  | category c => category { c with guildId }
  | forum c => forum { c with guildId }
  | media c => media { c with guildId }
  | thread c => thread { c with guildId }

/-- The overwrites of the channel itself; a thread has none and goes by its parent's. -/
def overwrites : Channel → Overwrites
  | text c | news c => c.overwrites
  | voice c | stage c => c.overwrites
  | category c => c.overwrites
  | forum c | media c => c.overwrites
  | thread _ => ∅

def parentId? : Channel → Option Snowflake
  | text c | news c => c.parentId
  | voice c | stage c => c.parentId
  | category _ => none
  | forum c | media c => c.parentId
  | thread c => some c.parentId

def lastMessageId? : Channel → Option Snowflake
  | text c | news c => c.lastMessageId
  | voice c | stage c => c.lastMessageId
  | category _ => none
  | forum c | media c => c.lastMessageId
  | thread c => c.lastMessageId

def lastPin? : Channel → Option Timestamp
  | text c | news c => c.lastPin
  | thread c => c.lastPin
  | voice _ | stage _ | category _ | forum _ | media _ => none

/-! ### Changes that only some kinds take -/

/-- The channel with a newer last message, if it holds messages directly. -/
def withLastMessage? (messageId : Snowflake) : Channel → Option Channel
  | text c => some (text { c with lastMessageId := messageId })
  | news c => some (news { c with lastMessageId := messageId })
  | voice c => some (voice { c with lastMessageId := messageId })
  | stage c => some (stage { c with lastMessageId := messageId })
  | thread c => some (thread { c with lastMessageId := messageId })
  | category _ | forum _ | media _ => none

/-- The channel with another time of its last pin, if it has pins. -/
def withLastPin? (lastPin : Option Timestamp) : Channel → Option Channel
  | text c => some (text { c with lastPin })
  | news c => some (news { c with lastPin })
  | thread c => some (thread { c with lastPin })
  | voice _ | stage _ | category _ | forum _ | media _ => none

/-- The channel with a changed thread, if it is one. -/
def withThread? (f : ThreadChannel → ThreadChannel) : Channel → Option Channel
  | thread c => some (thread (f c))
  | text _ | news _ | voice _ | stage _ | category _ | forum _ | media _ => none

@[inherit_doc withLastMessage?]
def withLastMessage (messageId : Snowflake) (c : Channel) : Channel :=
  (c.withLastMessage? messageId).getD c

@[inherit_doc withLastPin?]
def withLastPin (lastPin : Option Timestamp) (c : Channel) : Channel :=
  (c.withLastPin? lastPin).getD c

@[inherit_doc withThread?]
def mapThread (f : ThreadChannel → ThreadChannel) (c : Channel) : Channel :=
  (c.withThread? f).getD c

theorem mapThread_mapThread (f f' : ThreadChannel → ThreadChannel) (c : Channel) :
    (c.mapThread f).mapThread f' = c.mapThread fun t => f' (f t) := by
  cases c <;> rfl

theorem mapThread_eq_self {f : ThreadChannel → ThreadChannel} (same : ∀ t, f t = t)
    (c : Channel) : c.mapThread f = c := by
  cases c
  case thread t => exact congrArg thread (same t)
  all_goals rfl

/-! ### Kinds -/

/-- Whether messages can be sent to the channel itself. -/
def holdsMessages (c : Channel) : Bool :=
  match c.kind with
  | .text | .news | .voice | .stage | .thread => true
  | .category | .forum | .media => false

/-- Whether users can be connected to the channel. -/
def isAudio (c : Channel) : Bool := c.kind == .voice || c.kind == .stage

def isThread (c : Channel) : Bool := c.kind == .thread

/-- Whether the channel shows its threads only to those who see the channel. -/
def hidesThreads (c : Channel) : Bool := c.kind == .text || c.kind == .news

def text? : Channel → Option TextChannel
  | text c => some c
  | _ => none

def news? : Channel → Option TextChannel
  | news c => some c
  | _ => none

def voice? : Channel → Option VoiceChannel
  | voice c => some c
  | _ => none

def stage? : Channel → Option VoiceChannel
  | stage c => some c
  | _ => none

def category? : Channel → Option CategoryChannel
  | category c => some c
  | _ => none

def forum? : Channel → Option ForumChannel
  | forum c => some c
  | _ => none

def media? : Channel → Option ForumChannel
  | media c => some c
  | _ => none

def thread? : Channel → Option ThreadChannel
  | thread c => some c
  | _ => none

theorem mapThread_of_not_thread {c : Channel} (kind : c.thread? = none)
    (f : ThreadChannel → ThreadChannel) : c.mapThread f = c := by
  cases c
  case thread t => cases kind
  all_goals rfl

/-! ### Written form -/

/-- The key that names the kind. -/
def tag : Layout ChannelKind := .required "type" ChannelKind.codec

/-- Reads a channel of a known kind, from a document that was held until the kind was known. -/
def readKind : ChannelKind → Json → Except DecodeError Channel
  | .text, j => (TextChannel.layout.codec.read .held j).map text
  | .news, j => (TextChannel.layout.codec.read .held j).map news
  | .voice, j => (VoiceChannel.layout.codec.read .held j).map voice
  | .stage, j => (VoiceChannel.layout.codec.read .held j).map stage
  | .category, j => (CategoryChannel.layout.codec.read .held j).map category
  | .forum, j => (ForumChannel.layout.codec.read .held j).map forum
  | .media, j => (ForumChannel.layout.codec.read .held j).map media
  | .thread, j => (ThreadChannel.layout.codec.read .held j).map thread

def writeKind : Channel → Json.Object
  | text c | news c => TextChannel.layout.write c
  | voice c | stage c => VoiceChannel.layout.write c
  | category c => CategoryChannel.layout.write c
  | forum c | media c => ForumChannel.layout.write c
  | thread c => ThreadChannel.layout.write c

/--
Reads a channel from an array of the kind and what stands under the keys of the kind. An empty array
lacks the kind.
-/
def readItems (r : Reading) : List Json → Except DecodeError Channel
  | [] => .error (.missingField "type")
  | name :: items => do
    let kind ← ChannelKind.codec.read r name
    readKind kind (.array items)

/-- The kind, and beside it the keys that the kind has. -/
def layout : Layout Channel where
  keys := tag.keys ++ TextChannel.layout.keys ++ VoiceChannel.layout.keys ++
    CategoryChannel.layout.keys ++ ForumChannel.layout.keys ++ ThreadChannel.layout.keys
  read r o := do
    let kind ← tag.read r o
    readKind kind (.object o)
  readItems r items := (readItems r items).map (·, [])
  write c := tag.write c.kind ++ c.writeKind

/-- A channel as a document of its own, the whole of which is read before its kind is known. -/
def codec : Codec Channel := layout.codec.whole

end Channel

end GatewayCache
