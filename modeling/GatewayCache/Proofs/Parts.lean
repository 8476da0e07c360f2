import GatewayCache.Proofs.EffectivePermissions
import GatewayCache.Proofs.Session
import GatewayCache.Proofs.Transition

/-!
What the parts of the cache depend on. Most of them change by events and their own content alone;
channels, thread members and messages also depend on what the current user sees. Nothing
depends on the clock.
-/
namespace GatewayCache

/-! ### The whole from its parts -/

/-- Two caches with the same parts are the same cache. -/
theorem Cache.ext_parts {c c' : Cache} (retention : c.retention = c'.retention)
    (selfUser : c.selfUser = c'.selfUser) (unready : c.unready = c'.unready)
    (unavailable : c.unavailable = c'.unavailable) (guilds : c.guilds = c'.guilds)
    (channels : c.channels = c'.channels) (shelves : ∀ k : Shelf, k.store c = k.store c') :
    c = c' := by
  have roles : c.roles = c'.roles := shelves .roles
  have members : c.members = c'.members := shelves .members
  have threadMembers : c.threadMembers = c'.threadMembers := shelves .threadMembers
  have presences : c.presences = c'.presences := shelves .presences
  have voiceStates : c.voiceStates = c'.voiceStates := shelves .voiceStates
  have messages : c.messages = c'.messages := shelves .messages
  have emojis : c.emojis = c'.emojis := shelves .emojis
  have stickers : c.stickers = c'.stickers := shelves .stickers
  have stageInstances : c.stageInstances = c'.stageInstances := shelves .stageInstances
  have scheduledEvents : c.scheduledEvents = c'.scheduledEvents := shelves .scheduledEvents
  cases c
  cases c'
  simp_all only

/-! ### Parts that change by themselves -/

/-- What an event does to a shelf by its own content; the others depend on more than that. -/
def Event.onShelf (e : Event) : (k : Shelf) → GroupedStore k.Entity → GroupedStore k.Entity
  | .roles => e.onRoles
  | .members => e.onMembers
  | .presences => e.onPresences
  | .voiceStates => e.onVoiceStates
  | .emojis => e.onEmojis
  | .stickers => e.onStickers
  | .stageInstances => e.onStageInstances
  | .scheduledEvents => e.onScheduledEvents
  | .threadMembers | .messages => id

namespace Cache

theorem store_apply (now : Timestamp) (c : Cache) (e : Event) {k : Shelf}
    (notThreads : k ≠ .threadMembers) (notMessages : k ≠ .messages) :
    k.store (c.apply now e).1 = e.onShelf k (k.store c) := by
  rw [fst_apply]
  cases k
  case threadMembers => exact absurd rfl notThreads
  case messages => exact absurd rfl notMessages
  all_goals rfl

/-! ### The clock -/

/-- A timeout leaves the sight of channels alone. -/
theorem has_viewChannel (now : Timestamp) (c : Cache) (ch : Channel) (m : Member) :
    (c.memberPermissionsIn now ch m).has Permission.viewChannel =
      (c.holdsAll m || (c.grantedIn ch m).has Permission.viewChannel) := by
  have kept : Permissions.keptInTimeout.has Permission.viewChannel = true := by decide
  rw [memberPermissionsIn_eq]
  cases c.holdsAll m <;> simp [kept]

theorem hiddenThreads_timeless (now now' : Timestamp) (c : Cache) (ch : Channel) :
    c.hiddenThreads now ch = c.hiddenThreads now' ch := by
  simp only [hiddenThreads, hidesFromSelf, has_viewChannel]

/-- What an event does, and what comes back of it, does not depend on when it is applied. -/
theorem apply_timeless (now now' : Timestamp) (c : Cache) (e : Event) :
    c.apply now e = c.apply now' e := by
  cases e
  -- Only a changed channel reads the clock, to see which threads its overwrites hide.
  case channelUpdate e =>
    simp only [apply, changeChannel, hiddenThreads_timeless now now']
  all_goals rfl

/-- A run leads where its events lead, whenever they come. -/
theorem applyAll_timeless (now : Timestamp) (c : Cache) (run : List (Timestamp × Event)) :
    c.applyAll run = (run.map (·.2)).foldl (fun c e => (c.apply now e).1) c := by
  rw [applyAll, List.foldl_map]
  congr 1
  funext c e
  rw [apply_timeless e.1 now]

/-! ### Parts that depend on other parts -/

/-- Two caches in which the current user sees the same. -/
structure SameSight (c c' : Cache) : Prop where
  selfUser : c.selfUser = c'.selfUser
  guilds : c.guilds = c'.guilds
  channels : c.channels = c'.channels
  roles : c.roles = c'.roles
  members : c.members = c'.members

namespace SameSight

variable {c c' : Cache} (same : SameSight c c') (now : Timestamp) (e : Event)
include same

theorem evictedBy : c.evictedBy now e = c'.evictedBy now e := by
  obtain ⟨selfUser, guilds, channels, roles, members⟩ := same
  cases c
  cases c'
  dsimp only at selfUser guilds channels roles members
  subst selfUser guilds channels roles members
  cases e <;> rfl

theorem channelsAfter : c.channelsAfter now e = c'.channelsAfter now e := by
  simp only [Cache.channelsAfter, same.channels, same.evictedBy]

theorem guildThreadIds (g : Snowflake) : c.guildThreadIds g = c'.guildThreadIds g := by
  rw [Cache.guildThreadIds, Cache.guildThreadIds, same.channels]

theorem guildChannelIds (g : Snowflake) : c.guildChannelIds g = c'.guildChannelIds g := by
  rw [Cache.guildChannelIds, Cache.guildChannelIds, same.channels]

theorem threadMembersAfter (threadMembers : c.threadMembers = c'.threadMembers) :
    c.threadMembersAfter now e = c'.threadMembersAfter now e := by
  have placed : c.placeMembership = c'.placeMembership := by
    funext threadId m
    rw [placeMembership, placeMembership, same.selfUser]
  simp only [Cache.threadMembersAfter, threadMembers, same.evictedBy, same.guildThreadIds, placed]

theorem messagesAfter (messages : c.messages = c'.messages) :
    c.messagesAfter now e = c'.messagesAfter now e := by
  have placed : c.placeMessage = c'.placeMessage := by
    funext m
    rw [placeMessage, placeMessage, same.channels]
  simp only [Cache.messagesAfter, messages, same.evictedBy, same.guildChannelIds, placed]

/-- After an event the current user still sees the same in both. -/
theorem apply : SameSight (c.apply now e).1 (c'.apply now e).1 := by
  rw [fst_apply, fst_apply]
  constructor
  · exact congrArg e.onSelf same.selfUser
  · exact congrArg e.onGuilds same.guilds
  · exact same.channelsAfter now e
  · exact congrArg e.onRoles same.roles
  · exact congrArg e.onMembers same.members

end SameSight

end Cache

end GatewayCache
