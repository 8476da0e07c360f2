import GatewayCache.Cache.Query
import GatewayCache.Event.Payload

/-! What channel and thread events do to the cache, and what they displace. -/
namespace GatewayCache.Cache

/-- Removes a channel together with its messages and thread members. -/
def evictChannel (c : Cache) (id : Snowflake) : Cache :=
  { c with
    threadMembers := c.threadMembers.eraseGroup id
    messages := c.messages.eraseGroup id
    channels := c.channels.erase id }

def evictChannels (c : Cache) (ids : List Snowflake) : Cache := ids.foldl evictChannel c

/-- Keeps threads as channels of a guild. -/
def addThreads (c : Cache) (guildId : Snowflake) (threads : List ThreadChannel) : Cache :=
  threads.foldl (fun c t => c.addChannel (.thread { t with guildId })) c

/-- Whether the current user is known to be unable to see a channel of its guild. -/
def hidesFromSelf (c : Cache) (now : Timestamp) (ch : Channel) : Bool :=
  (c.selfMember? ch.guildId).any fun me =>
    !(c.memberPermissionsIn now ch me).has Permission.viewChannel

/-- The threads that go because the current user no longer sees their channel. -/
def hiddenThreads (c : Cache) (now : Timestamp) (ch : Channel) : List ThreadChannel :=
  if ch.hidesThreads && c.hidesFromSelf now ch then c.threadsIn ch.id else []

/-- A channel changes. Its threads go if the current user does not see it any more. -/
def changeChannel (c : Cache) (now : Timestamp) (e : Change Channel) : Cache × Change Channel :=
  -- Whether the channel is seen depends on the channel as it is now.
  let stored := c.addChannel e.current
  (stored.evictChannels ((stored.hiddenThreads now e.current).map (·.id)),
    { e with old := c.channels.get? e.current.id })

/-- A channel is deleted, and its threads with it. -/
def deleteChannel (c : Cache) (e : Change Channel) : Cache × Change Channel :=
  let id := e.current.id
  let gone := c.evictChannel id
  (gone.evictChannels ((gone.threadsIn id).map (·.id)), { e with old := c.channels.get? id })

def changePins (c : Cache) (e : PinsChange) : Cache × PinsChange :=
  ({ c with channels := c.channels.modify e.channelId (.withLastPin e.lastPin) },
    { e with oldLastPin := (c.channels.get? e.channelId).bind Channel.lastPin? })

/--
A thread is opened. A membership that comes with it is one in this thread, and one without a user
is the current user's.
-/
def openThread (c : Cache) (e : ThreadOpening) : Cache × ThreadOpening :=
  let c := c.addChannel (.thread e.thread)
  match e.member with
  | none => (c, e)
  | some m =>
    let userId := if m.userId = 0 then (c.selfUser.map SelfUser.id).getD 0 else m.userId
    let m := { m with threadId := e.thread.id, userId }
    ({ c with threadMembers := c.threadMembers.add m }, { e with member := some m })

def changeThread (c : Cache) (e : Change ThreadChannel) : Cache × Change ThreadChannel :=
  (c.addChannel (.thread e.current), { e with old := c.thread? e.current.id })

def deleteThread (c : Cache) (e : ThreadRemoval) : Cache × ThreadRemoval :=
  (c.evictChannel e.id, { e with oldThread := c.thread? e.id })

/-- Threads that the current user gained access to are kept as threads of the event's guild. -/
def syncThreads (c : Cache) (e : ThreadSync) : Cache × ThreadSync :=
  ({ c.addThreads e.guildId e.threads with threadMembers := c.threadMembers.addAll e.members },
    { e with threads := e.threads.map fun t => { t with guildId := e.guildId } })

/-- The arrival in the given thread of the given guild. -/
def placeArrival (threadId guildId : Snowflake) (a : Arrival) : Arrival where
  threadMember := { a.threadMember with threadId }
  member := { a.member with guildId }
  presence := a.presence.map fun p => { p with guildId }

/-- Members join and leave a thread. -/
def changeAttendance (c : Cache) (e : Attendance) : Cache × Attendance :=
  let added := e.added.map (placeArrival e.id e.guildId)
  -- Who joins and leaves in one event has left.
  let (removedMembers, threadMembers) :=
    (c.threadMembers.addAll (added.map (·.threadMember))).takeAll e.id e.removedIds
  ({ c with
      channels := c.channels.modify e.id (.mapThread fun t => { t with memberCount := e.memberCount })
      threadMembers
      members := c.members.addAll (added.map (·.member))
      presences := c.presences.addAll (added.filterMap (·.presence)) },
    { e with added, removedMembers })

end GatewayCache.Cache
