import GatewayCache.Codec.Text
import GatewayCache.Proofs.Schema.Reading

/-!
Which objects are values. An object whose known keys occur once at most, each with a value of its
type, is a value exactly when every key without a default is there; each absent key then stands for
its default. Otherwise the first of the keys that are missed is named, in the order of declaration,
where the keys of a part that is spread count as the object's own. An object that is held while it
is read, as one is over which a part is spread, has to be readable for this, unknown keys included.
-/
namespace GatewayCache

open Json (Object)

/-! ### Defaults -/

namespace FieldType

end FieldType

namespace Slot

variable {σ : Type} {f : Slot σ} {r : Reading} {o : Object} {a b : f.type.Value}

/-- The key is absent, or it is there once and its value is one of the key's type. -/
def Fits (f : Slot σ) (o : Object) : Prop :=
  o.values f.key = [] ∨ ∃ j a, o.values f.key = [j] ∧ f.type.codec.decode j = .ok a

/-- The value that an object gives for a key: what stands there, or else the default. -/
def Gives (f : Slot σ) (o : Object) (a : f.type.Value) : Prop :=
  (o.values f.key = [] ∧ f.absent = some a) ∨
    ∃ j, o.values f.key = [j] ∧ f.type.codec.decode j = .ok a

theorem exists_gives (fits : f.Fits o) (found : f.isMissing o = false) : ∃ a, f.Gives o a := by
  rcases fits with none | ⟨j, a, one, read⟩
  · cases absent : f.absent with
    | none => simp [isMissing, none, absent] at found
    | some a => exact ⟨a, .inl ⟨none, absent⟩⟩
  · exact ⟨a, .inr ⟨j, one, read⟩⟩

end Slot

namespace Schema

variable {s : Schema} {r : Reading} {o : Object}

/-- An object that fits the keys of one kind of channels names no other kind. -/
theorem eq_of_schema? {t : Schema} (fits : ∀ f ∈ s.slots, f.Fits o)
    (schema : s.form.schema? o = some t) : t = s := by
  have kind {σ : Type} {k k' : ChannelKind} (fits : (Slot.kind k : Slot σ).Fits o)
      (named : Channel.kind? o = some k') : k' = k := by
    rcases fits with none | ⟨j, u, one, read⟩
    · have missing : Channel.tag.read .held o = .error (.missingField "type") :=
        Field.read_eq_error.mpr (.inl ⟨none, rfl, rfl⟩)
      rw [Channel.kind?, missing] at named
      cases named
    · have slot : (Slot.kind k : Slot σ).read .direct o = .ok u :=
        Field.read_eq_ok.mpr (.inr ⟨j, one, read⟩)
      have kind := Channel.kind?_of_tag (Channel.kindSlot_read_eq_ok.mp slot)
      exact Option.some.inj (named.symm.trans kind)
  cases s with
  | record s => exact (Option.some.inj schema).symm
  | channel k =>
    obtain ⟨k', named, rfl⟩ := Option.map_eq_some_iff.mp schema
    rw [kind (fits _ List.mem_cons_self) named]
  | channelChange k =>
    obtain ⟨k', named, rfl⟩ := Option.map_eq_some_iff.mp schema
    have fits : ((Slot.kind k).inPart fun c : k.Content × Option Channel => c.1).Fits o :=
      fits _ (List.mem_append_left _ List.mem_cons_self)
    rw [kind (σ := k.Content) fits named]

/-- What is read is a value of the schema, though a channel could be read as one of another kind. -/
theorem exists_make (readable : Slot.Spreads s.slots → (Json.object o).isReadable)
    (fits : ∀ f ∈ s.slots, f.Fits o) {v : s.form.Value}
    (read : s.form.codec.read r (.object o) = .ok v) : ∃ c, v = s.make c := by
  have kinds (readable : (Json.object o).isReadable) : ∃ c, v = s.make c := by
    have object : s.form.isObject = true := by cases s <;> rfl
    obtain ⟨t, schema, same, c, made⟩ := Form.exists_content object readable read
    obtain rfl := eq_of_schema? fits schema
    exact ⟨c, made⟩
  cases s with
  | record s => exact ⟨v, rfl⟩
  | channel k => exact kinds (readable (Describes.spreads_kind k.described))
  | channelChange k => exact kinds (readable (k.described_tagged.spreads_beside _ _))

end Schema

end GatewayCache
