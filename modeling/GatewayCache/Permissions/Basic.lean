/-!
Permission sets: one bit for each of the 41 known permissions. A bit outside them has no
meaning and is dropped when a word is read.
-/
namespace GatewayCache

/-- A known permission, by its bit position. -/
abbrev Permission := Fin 41

namespace Permission

/-- The wire names in bit order. -/
def names : List String := [
  "CREATE_INSTANT_INVITE", "KICK_MEMBERS", "BAN_MEMBERS", "ADMINISTRATOR", "MANAGE_CHANNELS",
  "MANAGE_GUILD", "ADD_REACTIONS", "VIEW_AUDIT_LOG", "PRIORITY_SPEAKER", "STREAM",
  "VIEW_CHANNEL", "SEND_MESSAGES", "SEND_TTS_MESSAGES", "MANAGE_MESSAGES", "EMBED_LINKS",
  "ATTACH_FILES", "READ_MESSAGE_HISTORY", "MENTION_EVERYONE", "USE_EXTERNAL_EMOJIS",
  "VIEW_GUILD_INSIGHTS", "CONNECT", "SPEAK", "MUTE_MEMBERS", "DEAFEN_MEMBERS", "MOVE_MEMBERS",
  "USE_VAD", "CHANGE_NICKNAME", "MANAGE_NICKNAMES", "MANAGE_ROLES", "MANAGE_WEBHOOKS",
  "MANAGE_GUILD_EXPRESSIONS", "USE_APPLICATION_COMMANDS", "REQUEST_TO_SPEAK", "MANAGE_EVENTS",
  "MANAGE_THREADS", "CREATE_PUBLIC_THREADS", "CREATE_PRIVATE_THREADS", "USE_EXTERNAL_STICKERS",
  "SEND_MESSAGES_IN_THREADS", "USE_EMBEDDED_ACTIVITIES", "MODERATE_MEMBERS"]

/-- Its holder passes every check. -/
def administrator : Permission := 3

/-- Seeing a channel at all. -/
def viewChannel : Permission := 10

/-- Reading what was written before. -/
def readMessageHistory : Permission := 16

end Permission

/-- A set of known permissions. -/
structure Permissions where
  bits : BitVec 41
deriving DecidableEq

namespace Permissions

def none : Permissions := ⟨0⟩

def all : Permissions := ⟨BitVec.allOnes 41⟩

instance : EmptyCollection Permissions := ⟨none⟩
instance : Inhabited Permissions := ⟨none⟩

def only (p : Permission) : Permissions := ⟨BitVec.twoPow 41 p⟩

/-- Whether a permission is in the set. -/
def has (s : Permissions) (p : Permission) : Bool := s.bits.getLsbD p

instance : Union Permissions := ⟨fun a b => ⟨a.bits ||| b.bits⟩⟩
instance : Inter Permissions := ⟨fun a b => ⟨a.bits &&& b.bits⟩⟩

/-- The known permissions outside a set. -/
def complement (s : Permissions) : Permissions := ⟨~~~s.bits⟩

/-- The permissions of `a` outside `b`. -/
def without (a b : Permissions) : Permissions := a ∩ b.complement

/-- The set that a word stands for; bits without a meaning are dropped. -/
def ofWord (word : UInt64) : Permissions := ⟨word.toBitVec.setWidth 41⟩

/-- The word that stands for a set. -/
def toWord (s : Permissions) : UInt64 := ⟨s.bits.setWidth 64⟩

/-- Whether a word has no bits without a meaning. -/
def isKnown (word : UInt64) : Bool := (ofWord word).toWord == word

/-- The names of the permissions in a set, in bit order. -/
def names (s : Permissions) : List String :=
  (List.finRange 41).filterMap fun p => if s.has p then Permission.names[p.val]? else Option.none

/-- Two sets with the same members are the same set. -/
theorem ext_has {a b : Permissions} (h : ∀ p, a.has p = b.has p) : a = b := by
  obtain ⟨a⟩ := a
  obtain ⟨b⟩ := b
  congr 1
  exact BitVec.eq_of_getLsbD_eq fun i inside => h ⟨i, inside⟩

@[simp] theorem has_none (p : Permission) : none.has p = false := by simp [none, has]

@[simp] theorem has_all (p : Permission) : all.has p = true := by
  simp only [all, has, BitVec.getLsbD_allOnes, p.isLt, decide_true]

@[simp] theorem has_union (a b : Permissions) (p : Permission) :
    (a ∪ b).has p = (a.has p || b.has p) := by
  change (a.bits ||| b.bits).getLsbD p = _
  simp [has]

@[simp] theorem has_inter (a b : Permissions) (p : Permission) :
    (a ∩ b).has p = (a.has p && b.has p) := by
  change (a.bits &&& b.bits).getLsbD p = _
  simp [has]

@[simp] theorem has_complement (a : Permissions) (p : Permission) :
    a.complement.has p = !a.has p := by
  simp [complement, has]

@[simp] theorem has_without (a b : Permissions) (p : Permission) :
    (a.without b).has p = (a.has p && !b.has p) := by
  simp [without]

@[simp] theorem has_only (q p : Permission) : (only q).has p = decide (p = q) := by
  simp only [only, has, BitVec.getLsbD_twoPow, Fin.ext_iff]
  have := q.isLt
  simp [this, eq_comm]

/-- Writing a set as a word and reading it back gives the set. -/
theorem ofWord_toWord (s : Permissions) : ofWord s.toWord = s := by
  refine ext_has fun p => ?_
  have := p.isLt
  simp only [has, ofWord, toWord, BitVec.getLsbD_setWidth]
  have inside : (p : Nat) < 64 := by omega
  simp [this, inside]

end Permissions

end GatewayCache
