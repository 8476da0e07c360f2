import GatewayCache.Cache.Query
import GatewayCache.Event.Payload

/-! What message events do to the cache, and what they displace. -/
namespace GatewayCache

def maxCount : Nat := UInt32.size - 1

/-- One more, but not above the largest count. -/
def countUp (n : UInt32) : UInt32 := .ofNat (min (n.toNat + 1) maxCount)

/-- Some fewer, but not below zero. -/
def countDown (fewer : Nat) (n : UInt32) : UInt32 := .ofNat (n.toNat - fewer)

@[simp] theorem toNat_countUp (n : UInt32) : (countUp n).toNat = min (n.toNat + 1) maxCount := by
  rw [countUp, UInt32.toNat_ofNat_of_lt']
  exact Nat.lt_of_le_of_lt (Nat.min_le_right ..) (by decide)

@[simp] theorem toNat_countDown (fewer : Nat) (n : UInt32) :
    (countDown fewer n).toNat = n.toNat - fewer := by
  rw [countDown, UInt32.toNat_ofNat_of_lt']
  exact Nat.lt_of_le_of_lt (Nat.sub_le ..) n.toNat_lt

namespace ThreadChannel

/-- The thread after one more message. -/
def messageSent (t : ThreadChannel) : ThreadChannel :=
  { t with
    totalMessageSent := countUp t.totalMessageSent
    messageCount := countUp t.messageCount }

/-- The thread after deletions. -/
def messagesDeleted (deleted : Nat) (t : ThreadChannel) : ThreadChannel :=
  { t with messageCount := countDown deleted t.messageCount }

end ThreadChannel

namespace Channel

/-- The channel after a new message in it. -/
def messageSent (messageId : Snowflake) (ch : Channel) : Channel :=
  (ch.withLastMessage messageId).mapThread ThreadChannel.messageSent

end Channel

namespace Cache

/--
A message is sent: its channel takes note, and the message is kept. One without a guild belongs to
the guild of its channel, if that is cached.
-/
def sendMessage (c : Cache) (m : Message) : Cache × Message :=
  let m := { m with guildId := m.guildId <|> (c.channels.get? m.channelId).map (·.guildId) }
  ({ c with
      channels := c.channels.modify m.channelId (.messageSent m.id)
      messages := c.messages.add m }, m)

def editMessage (c : Cache) (e : Change Message) : Cache × Change Message :=
  ({ c with messages := c.messages.add e.current },
    { e with old := c.messages.get? e.current.channelId e.current.id })

def countDeleted (c : Cache) (channelId : Snowflake) (deleted : Nat) : Cache :=
  { c with channels := c.channels.modify channelId (.mapThread (.messagesDeleted deleted)) }

def deleteMessage (c : Cache) (e : MessageRemoval) : Cache × MessageRemoval :=
  ({ c with messages := c.messages.erase e.channelId e.id }.countDeleted e.channelId 1,
    { e with oldMessage := c.messages.get? e.channelId e.id })

/-- Several messages are deleted; every id counts, whether or not its message was cached. -/
def deleteMessages (c : Cache) (e : BulkRemoval) : Cache × BulkRemoval :=
  let (oldMessages, messages) := c.messages.takeAll e.channelId e.ids
  -- The thread loses all of the messages, though the cache may have held only some.
  ({ c with messages }.countDeleted e.channelId e.ids.length, { e with oldMessages })

end Cache

end GatewayCache
