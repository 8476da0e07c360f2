import GatewayCache.Proofs.Schema.Envelope
import GatewayCache.Proofs.TimestampText

/-!
Writing a value and reading it back gives the value. For an object that is so because no key of its
table occurs twice, because a key that is left out stands for what was left out, and because only a
value that may be absent is ever written as `null`.
-/
namespace GatewayCache

open Json (Object)

/-- What is written is readable, is not `null`, and is read back however it is read. -/
structure Codec.RoundTrips {α : Type} (codec : Codec α) : Prop where
  readable : ∀ a, (codec.encode a).isReadable
  ne_null : ∀ a, codec.encode a ≠ .null
  read_encode : ∀ r a, codec.read r (codec.encode a) = .ok a

/-! ### Scalars -/

namespace Codec

variable {α : Type}

theorem roundTrips_integer {low high : Int} {ofInt : Int → α} {toInt : α → Int}
    (bounds : ∀ a, low ≤ toInt a ∧ toInt a ≤ high) (back : ∀ a, ofInt (toInt a) = a) :
    (integer low high ofInt toInt).RoundTrips where
  readable _ := rfl
  ne_null _ := by simp [integer, Json.ofInt]
  read_encode r a := by simp [integer, Json.ofInt, bounds a, back a]

theorem roundTrips_word8 : word8.RoundTrips :=
  roundTrips_integer (fun a => by have := a.toNat_lt; simp only [UInt8.size]; omega) (by simp)

theorem roundTrips_word32 : word32.RoundTrips :=
  roundTrips_integer (fun a => by have := a.toNat_lt; simp only [UInt32.size]; omega) (by simp)

theorem roundTrips_word64 : word64.RoundTrips :=
  roundTrips_integer (fun a => by have := a.toNat_lt; simp only [UInt64.size]; omega) (by simp)

theorem roundTrips_int32 : int32.RoundTrips :=
  roundTrips_integer (fun a => ⟨a.minValue_le_toInt, a.toInt_le⟩) (by simp)

theorem roundTrips_int64 : int64.RoundTrips :=
  roundTrips_integer (fun a => ⟨a.minValue_le_toInt, a.toInt_le⟩) (by simp)

theorem roundTrips_bool : bool.RoundTrips := ⟨fun _ => rfl, nofun, fun _ _ => rfl⟩

theorem roundTrips_string : string.RoundTrips := ⟨fun _ => rfl, nofun, fun _ _ => rfl⟩

theorem roundTrips_timestamp : timestamp.RoundTrips where
  readable _ := by simp [timestamp, Json.isReadable]
  ne_null _ := by simp [timestamp]
  read_encode r t := by simp [timestamp, Timestamp.parse?_render]

theorem roundTrips_permissions : permissions.RoundTrips where
  readable s := roundTrips_word64.readable s.toWord
  ne_null s := roundTrips_word64.ne_null s.toWord
  read_encode r s := by
    have read := roundTrips_word64.read_encode r s.toWord
    exact map_eq_ok.mpr ⟨s.toWord, read, s.ofWord_toWord⟩

theorem roundTrips_named {members : List α} {name : α → String}
    (distinct : (members.map name).Nodup) (complete : ∀ a, a ∈ members) :
    (named members name).RoundTrips where
  readable _ := rfl
  ne_null := nofun
  read_encode _ a := member_name distinct (complete a)

end Codec

theorem ChannelKind.roundTrips_nameCodec (k : ChannelKind) : k.nameCodec.RoundTrips where
  readable _ := rfl
  ne_null := nofun
  read_encode r _ := nameCodec_read_eq_ok.mpr (k.codec_read_name r)

/-! ### Lists and values that may be absent -/

namespace Codec.RoundTrips

variable {α : Type} {codec : Codec α}

theorem list (h : codec.RoundTrips) : codec.list.RoundTrips where
  readable as := by
    simp only [Codec.list, Json.readable_array, List.forall_mem_map]
    exact fun a _ => h.readable a
  ne_null := nofun
  read_encode r as := by
    simp only [Codec.list]
    induction as with
    | nil => rfl
    | cons a as ih =>
      rw [List.map_cons, List.mapM_cons, h.read_encode r a, ih]
      rfl

theorem overwrites (h : Overwrite.layout.codec.list.RoundTrips) : Overwrites.codec.RoundTrips where
  readable os := h.readable os.entries
  ne_null os := h.ne_null os.entries
  read_encode r os := map_eq_ok.mpr ⟨os.entries, h.read_encode r os.entries, rfl⟩

theorem read_nullable (h : codec.RoundTrips) (r : Reading) (a : Option α) :
    codec.nullable.read r (codec.nullable.encode a) = .ok a := by
  cases a with
  | none => rfl
  | some a =>
    -- A value that was written as `null` would be lost here.
    have value := h.ne_null a
    have read := h.read_encode r a
    simp only [Codec.nullable, read]
    rfl

end Codec.RoundTrips

namespace FieldType

variable {t : FieldType}

theorem readable_encode (h : t.form.codec.RoundTrips) (a : t.Value) :
    (t.codec.encode a).isReadable := by
  cases t with
  | plain form => exact h.readable a
  | option form =>
    cases a with
    | none => rfl
    | some a => exact h.readable a

theorem read_encode (h : t.form.codec.RoundTrips) (r : Reading) (a : t.Value) :
    t.codec.read r (t.codec.encode a) = .ok a := by
  cases t with
  | plain form => exact h.read_encode r a
  | option form => exact h.read_nullable r a

end FieldType

/-! ### Objects -/

namespace Slot

variable {σ : Type} {f : Slot σ} {slots : List (Slot σ)}

theorem values_write_of_ne {key : String} (other : f.key ≠ key) (v : σ) :
    Object.values (f.write v) key = [] := by
  unfold write Field.write
  split
  · rfl
  · simp [Object.values_cons, field, other]

theorem values_flatMap_write_of_not_mem {key : String} (unknown : key ∉ slots.map (·.key)) (v : σ) :
    Object.values (slots.flatMap (·.write v)) key = [] := by
  induction slots with
  | nil => rfl
  | cons g slots ih =>
    rw [List.map_cons, List.mem_cons, not_or] at unknown
    rw [List.flatMap_cons, Object.values_append, values_write_of_ne (Ne.symm unknown.1) v,
      ih unknown.2, List.append_nil]

theorem values_flatMap_write (distinct : (slots.map (·.key)).Nodup) (member : f ∈ slots) (v : σ) :
    Object.values (slots.flatMap (·.write v)) f.key = Object.values (f.write v) f.key := by
  induction slots with
  | nil => cases member
  | cons g slots ih =>
    rw [List.map_cons, List.nodup_cons] at distinct
    rw [List.flatMap_cons, Object.values_append]
    rcases List.mem_cons.mp member with rfl | member
    -- No later slot writes the key of the first one.
    · rw [values_flatMap_write_of_not_mem distinct.1 v, List.append_nil]
    · have other : g.key ≠ f.key := fun same =>
        distinct.1 (same ▸ List.mem_map_of_mem member)
      rw [values_write_of_ne other v, ih distinct.2 member, List.nil_append]

/-- A slot reads back what it has written, or what it has left out. -/
theorem read_of_values (h : f.type.form.codec.RoundTrips) {r : Reading} {o : Object} {v : σ}
    (written : o.values f.key = Object.values (f.write v) f.key) : f.read r o = .ok (f.get v) := by
  refine Field.read_eq_ok.mpr ?_
  change (o.values f.key = [] ∧ f.absent = some (f.get v)) ∨
    ∃ j, o.values f.key = [j] ∧ f.type.codec.read (f.reading r) j = .ok (f.get v)
  rw [written]
  unfold write Field.write
  split
  next omitted => exact .inl ⟨rfl, f.absent_of_omits _ omitted⟩
  next =>
    refine .inr ⟨f.type.codec.encode (f.get v), ?_, FieldType.read_encode h _ _⟩
    simp [Object.values_cons, field]

theorem readable_write (h : f.type.form.codec.RoundTrips) (v : σ) :
    ∀ m ∈ f.write v, m.2.isReadable := by
  unfold write Field.write
  split
  · exact List.forall_mem_nil _
  · rw [List.forall_mem_singleton]
    exact FieldType.readable_encode h _

end Slot

namespace Schema

variable {s : Schema}

theorem encode_make (v : s.Value) :
    s.form.codec.encode (s.make v) = .object (s.slots.flatMap (·.write v)) := by
  rw [← s.described.write_eq v]
  cases s <;> rfl

theorem readable_encode (parts : ∀ f ∈ s.slots, f.type.form.codec.RoundTrips) (v : s.Value) :
    (s.form.codec.encode (s.make v)).isReadable := by
  rw [encode_make, Json.readable_object]
  intro m written
  obtain ⟨f, member, written⟩ := List.mem_flatMap.mp written
  exact Slot.readable_write (parts f member) v m written

theorem read_encode (parts : ∀ f ∈ s.slots, f.type.form.codec.RoundTrips) (r : Reading)
    (v : s.Value) : s.form.codec.read r (s.form.codec.encode (s.make v)) = .ok (s.make v) := by
  have readable := readable_encode parts v
  rw [encode_make] at readable ⊢
  refine (read_eq_ok fun _ => readable).mpr fun f member => ?_
  exact Slot.read_of_values (parts f member) (Slot.values_flatMap_write s.nodup_keys member v)

end Schema

/-- Every value of an object is one of a schema. -/
theorem Form.exists_make {w : Form} (object : w.isObject) (v : w.Value) :
    ∃ (s : Schema) (same : s.form = w) (c : s.Value), v = same ▸ s.make c := by
  cases w
  case record s => exact ⟨.record s, rfl, v, rfl⟩
  case channel => exact ⟨.channel v.kind, rfl, v.content, v.make_content.symm⟩
  case channelChange =>
    obtain ⟨c, old⟩ := v
    refine ⟨.channelChange c.kind, rfl, (c.content, old), ?_⟩
    simp [Schema.make]
  all_goals cases object

/-- Every value of an object is written as one. -/
theorem Form.exists_object {w : Form} (object : w.isObject) (v : w.Value) :
    ∃ o, w.codec.encode v = .object o := by
  obtain ⟨s, rfl, c, rfl⟩ := exists_make object v
  exact ⟨_, s.encode_make c⟩

/-! ### Events -/

namespace Event

theorem encode_eq (e : Event) :
    codec.encode e = .object [("t", .string e.name), ("d", e.encodePayload)] := by
  simp [codec, envelope, Layout.and, Layout.required, Layout.field, Field.write, Dispatch.codec,
    Codec.named, Codec.document, name_eq]

theorem roundTrips (payloads : ∀ d : Dispatch, d.form.codec.RoundTrips) : codec.RoundTrips := by
  have readable (e : Event) : (codec.encode e).isReadable := by
    obtain ⟨p, -, written⟩ := e.exists_payload
    rw [encode_eq, written]
    simp [Json.isReadable, Json.membersReadable, (payloads e.dispatch).readable p]
  refine ⟨readable, fun e => by simp [encode_eq], ?_⟩
  intro r e
  obtain ⟨p, made, written⟩ := e.exists_payload
  obtain ⟨o, object⟩ := Form.exists_object e.dispatch.isObject_form p
  -- The dispatch is written before the payload, but the reader does not rely on it.
  have back := (payloads e.dispatch).read_encode (e.dispatch.reading (reading r
    [("t", .string e.dispatch.name), ("d", .object o)])) p
  have readable := readable e
  rw [encode_eq, name_eq, written, object] at readable
  rw [object] at back
  rw [encode_eq, name_eq, written, object,
    read_object readable rfl (e.dispatch.codec_read_name r) rfl, back]
  exact congrArg Except.ok made

end Event

/-- Every value of every form is read back from what it is written as. -/
theorem Form.roundTrips (w : Form) : w.codec.RoundTrips := by
  induction w using Form.induction with
  | scalar w scalar =>
    cases w
    case word8 => exact Codec.roundTrips_word8
    case word32 => exact Codec.roundTrips_word32
    case word64 => exact Codec.roundTrips_word64
    case int32 => exact Codec.roundTrips_int32
    case int64 => exact Codec.roundTrips_int64
    case bool => exact Codec.roundTrips_bool
    case string => exact Codec.roundTrips_string
    case timestamp => exact Codec.roundTrips_timestamp
    case permissions => exact Codec.roundTrips_permissions
    case overwriteKind => exact Codec.roundTrips_named (by decide) (fun k => by cases k <;> decide)
    case threadKind => exact Codec.roundTrips_named (by decide) (fun k => by cases k <;> decide)
    case onlineStatus => exact Codec.roundTrips_named (by decide) (fun k => by cases k <;> decide)
    case scheduledEventStatus =>
      exact Codec.roundTrips_named (by decide) (fun k => by cases k <;> decide)
    case dispatch => exact Codec.roundTrips_named (by decide) Dispatch.mem_all
    case kind k => exact k.roundTrips_nameCodec
    all_goals cases scalar
  | list item ih => exact ih.list
  | overwrites ih => exact ih.overwrites
  | object w object ih =>
    constructor
    · intro v
      obtain ⟨s, rfl, c, rfl⟩ := Form.exists_make object v
      exact Schema.readable_encode (ih s rfl) c
    · intro v
      obtain ⟨o, written⟩ := Form.exists_object object v
      simp [written]
    · intro r v
      obtain ⟨s, rfl, c, rfl⟩ := Form.exists_make object v
      exact Schema.read_encode (ih s rfl) r c
  | event ih => exact Event.roundTrips ih

namespace Event

/-- An event's document in the form in which events are written, if it has an event. -/
def normalize (j : Json) : Except DecodeError Json := (codec.decode j).map codec.encode

/--
An event is written under the name of its dispatch and read back as what it was. So the form in
which events are written is a normal form: a document is changed by it at most once.
-/
theorem decode_encode :
    (∀ e : Event, (∃ payload, codec.encode e = .object [("t", .string e.name), ("d", payload)]) ∧
      codec.decode (codec.encode e) = .ok e) ∧
    ∀ j j', normalize j = .ok j' → normalize j' = .ok j' := by
  have back (e : Event) : codec.decode (codec.encode e) = .ok e :=
    (Form.roundTrips .event).read_encode .direct e
  refine ⟨fun e => ⟨⟨e.encodePayload, encode_eq e⟩, back e⟩, ?_⟩
  intro j j' normal
  obtain ⟨e, -, rfl⟩ := map_eq_ok.mp normal
  exact map_eq_ok.mpr ⟨e, back e, rfl⟩

end Event

end GatewayCache
