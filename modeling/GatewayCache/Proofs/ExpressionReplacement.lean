import GatewayCache.Proofs.Enrichment
import Mathlib.Data.List.Dedup

/-!
Emojis and stickers are replaced as sets. The new list is all that a guild has afterwards, each id
once; what it had before is divided into what the event reports as removed and what the list has
replaced.
-/
namespace GatewayCache

namespace GroupedStore

variable {V : Type} [Filed V] {on : Bool} {s : GroupedStore V} {owner : Snowflake}
  {place : V → V} {new : List V}

/-- The store `s'` is `s` with the entries of an owner replaced by new ones, which `place` makes the
owner's; `removed` are those without a successor. Values are retained just if `on`. -/
structure Replaces (owner : Snowflake) (place : V → V) (new : List V) (on : Bool)
    (s s' : GroupedStore V) (removed : List V) : Prop where
  here : on = true → ∀ id,
    s'.get? owner id = (new.findRev? (Filed.key · == id)).map place
  keys : on = true →
    ((s'.groupValues owner).map Filed.key).Perm (new.map Filed.key).dedup
  elsewhere : ∀ g id, g ≠ owner → s'.get? g id = s.get? g id
  partition : (removed ++
    (s.groupValues owner).filter fun old => new.any (Filed.key · == Filed.key old)).Perm
      (s.groupValues owner)
  distinct : (removed.map Filed.key).Nodup
  vacant : on = false → s'.Vacant ∧ removed = []

theorem Sound.replaces (sound : s.Sound on) (owned : ∀ v, Filed.owner? (place v) = some owner)
    (same : ∀ v, Filed.key (place v) = Filed.key v) (new : List V) :
    Replaces owner place new on s (s.replaceGroup owner (new.map place))
      ((s.groupValues owner).filter fun old => !new.any (Filed.key · == Filed.key old)) := by
  have after : (s.replaceGroup owner (new.map place)).Sound on := sound.replaceGroup owner _
  have lookup (g id : Snowflake) := sound.get?_replaceGroup
    (List.forall_mem_map.2 fun v (_ : v ∈ new) => owned v) g id
  have here : on = true → ∀ id, (s.replaceGroup owner (new.map place)).get? owner id =
      (new.findRev? (Filed.key · == id)).map place := by
    intro retained id
    rw [lookup, if_pos rfl, if_pos retained, lastFiled_map owned same, if_pos rfl]
  constructor
  case here => exact here
  case keys =>
    intro retained
    -- Neither list repeats an id, so it is enough that they have the same ids.
    have unique : (new.map Filed.key).dedup.Nodup := List.nodup_dedup _
    refine (List.perm_ext_iff_of_nodup (after.nodup_keys owner) unique).2 fun id => ?_
    rw [after.mem_keys, here retained, List.mem_dedup, mem_map_iff_findRev?]
    simp
  case elsewhere =>
    intro g id other
    rw [lookup, if_neg other]
  case partition =>
    -- The two filters are of opposite conditions, and the first is the one for what stays.
    refine List.perm_append_comm.trans ?_
    exact List.filter_append_perm _ (s.groupValues owner)
  case distinct =>
    exact (List.filter_sublist.map Filed.key).nodup (sound.nodup_keys owner)
  case vacant =>
    intro off
    have before : s.groupValues owner = [] :=
      (vacant_of_not_retains (sound.retains.trans off)).groupValues owner
    rw [before]
    exact ⟨vacant_of_not_retains (after.retains.trans off), rfl⟩

end GroupedStore

namespace Cache

variable {flags : Retention} {c : Cache}

theorem Sound.replaces_emojis (sound : c.Sound flags) (now : Timestamp) (r : EmojiReplacement) :
    GroupedStore.Replaces r.guildId (fun e => { e with guildId := r.guildId }) r.emojis
      (flags.keeps .emojis) c.emojis (c.apply now (.guildEmojisUpdate r)).1.emojis
      ((c.emojis.groupValues r.guildId).filter fun old => !r.emojis.any (·.id == old.id)) := by
  have store : c.emojis.Sound (flags.keeps .emojis) := sound.shelves .emojis
  rw [fst_apply]
  refine store.replaces ?_ ?_ r.emojis <;> exact fun _ => rfl

theorem Sound.replaces_stickers (sound : c.Sound flags) (now : Timestamp) (r : StickerReplacement) :
    GroupedStore.Replaces r.guildId (fun s => { s with guildId := some r.guildId }) r.stickers
      (flags.keeps .stickers) c.stickers (c.apply now (.guildStickersUpdate r)).1.stickers
      ((c.stickers.groupValues r.guildId).filter fun old => !r.stickers.any (·.id == old.id)) := by
  have store : c.stickers.Sound (flags.keeps .stickers) := sound.shelves .stickers
  rw [fst_apply]
  refine store.replaces ?_ ?_ r.stickers <;> exact fun _ => rfl

/--
After any session a new list of emojis or stickers replaces those of its guild, where they are
retained, and nothing else in the cache. The event comes back with the list as one of the guild and
with the entries that no entry of the list replaced.
-/
theorem expressions_replaced (flags : Retention) (calls : List Call) (now : Timestamp) :
    let c := session flags calls
    (∀ r : EmojiReplacement,
      let c' := (c.apply now (.guildEmojisUpdate r)).1
      let place (e : Emoji) : Emoji := { e with guildId := r.guildId }
      c' = { c with emojis := c'.emojis } ∧
        ∃ removedEmojis, (c.apply now (.guildEmojisUpdate r)).2 =
            .guildEmojisUpdate { r with emojis := r.emojis.map place, removedEmojis } ∧
          GroupedStore.Replaces r.guildId place r.emojis (flags.keeps .emojis) c.emojis c'.emojis
            removedEmojis) ∧
    ∀ r : StickerReplacement,
      let c' := (c.apply now (.guildStickersUpdate r)).1
      let place (s : Sticker) : Sticker := { s with guildId := some r.guildId }
      c' = { c with stickers := c'.stickers } ∧
        ∃ removedStickers, (c.apply now (.guildStickersUpdate r)).2 =
            .guildStickersUpdate { r with stickers := r.stickers.map place, removedStickers } ∧
          GroupedStore.Replaces r.guildId place r.stickers (flags.keeps .stickers) c.stickers
            c'.stickers removedStickers := by
  intro c
  have sound : c.Sound flags := session_sound flags calls
  constructor
  · intro r c' place
    exact ⟨rfl, _, sound.snd_apply now (.guildEmojisUpdate r), sound.replaces_emojis now r⟩
  · intro r c' place
    exact ⟨rfl, _, sound.snd_apply now (.guildStickersUpdate r), sound.replaces_stickers now r⟩

/-- Of two emojis with one id the last is kept, and the emoji that is not listed again is removed. -/
example :
    let emoji (id guildId : Snowflake) (name : String) : Emoji := { id, guildId, name }
    let update (emojis : List Emoji) : Event :=
      .guildEmojisUpdate { guildId := 1, emojis, removedEmojis := [] }
    let c := ((empty .all).apply .epoch (update [emoji 5 0 "a", emoji 6 0 "b"])).1
    let list := [emoji 6 0 "c", emoji 7 0 "d", emoji 6 0 "e"]
    let (c', e) := c.apply .epoch (update list)
    c'.emojis.groupValues 1 = [emoji 6 1 "e", emoji 7 1 "d"] ∧
      e = .guildEmojisUpdate
        { guildId := 1, removedEmojis := [emoji 5 1 "a"]
          emojis := [emoji 6 1 "c", emoji 7 1 "d", emoji 6 1 "e"] } := by decide

end Cache

end GatewayCache
