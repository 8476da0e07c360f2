import GatewayCache.Proofs.Schema.Envelope

/-!
The two ways of reading a document. They differ on names alone: a name may also be the only key of
an object, and then the content that stands for nothing is not the same in both, and only in what is
held may a number stand for the kind of a channel. A document that is plain, with structures as
objects and names as strings, is read as the same value either way.
-/
namespace GatewayCache

open Json (Object)

/-! ### The parts of an object -/

/-- The dispatch that an object names. -/
def Event.dispatch? (o : Object) : Option Dispatch := o.named? "t" Dispatch.all Dispatch.name

theorem Event.dispatch?_eq_some {o : Object} {d : Dispatch} :
    dispatch? o = some d ↔ o.values "t" = [.string d.name] :=
  Json.Object.named?_eq_some Dispatch.nodup_names d.mem_all

/-- The keys of a schema, each with the type of its values. -/
def Schema.parts (s : Schema) : List (String × FieldType) := s.slots.map fun f => (f.key, f.type)

namespace Form

/-- Whether the documents of a form are names of an enumeration. -/
def isName : Form → Bool
  | overwriteKind | threadKind | onlineStatus | scheduledEventStatus | dispatch | kind _ => true
  | _ => false

/--
The keys with a meaning in an object of the form, each with the type of its values. Which keys have
one may depend on a name that the object gives.
-/
def parts : Form → Object → List (String × FieldType)
  | event, o =>
    ("t", .plain dispatch) :: ((Event.dispatch? o).map fun d => ("d", .plain d.form)).toList
  | w, o => ((w.schema? o).map Schema.parts).getD []

/-- What the items of a list are, for the forms that are lists. -/
def item? : Form → Option Form
  | list item => some item
  | overwrites => some (entity .overwrite)
  | _ => none

/-- A document in which structures are objects and names are strings. -/
inductive Plain : Form → Json → Prop
  | scalar {w : Form} {j : Json} (scalar : w.isScalar) (unnamed : w.isName = false) : Plain w j
  | name {w : Form} {s : String} (named : w.isName) : Plain w (.string s)
  | list {w item : Form} {js : List Json} (items : w.item? = some item)
      (each : ∀ j ∈ js, Plain item j) : Plain w (.array js)
  | object {w : Form} {o : Object} (composed : w.isScalar = false)
      (each : ∀ key j t, (key, j) ∈ o → (key, t) ∈ w.parts o → j ≠ .null → Plain t.form j) :
      Plain w (.object o)

theorem parts_of_schema? {w : Form} {o : Object} {s : Schema} (h : w.schema? o = some s) :
    w.parts o = s.parts := by
  cases w
  case event => cases h
  all_goals simp [parts, h]

theorem Plain.part {w : Form} {o : Object} {key : String} {j : Json} {t : FieldType}
    (plain : w.Plain (.object o)) (given : (key, j) ∈ o) (known : (key, t) ∈ w.parts o)
    (value : j ≠ .null) : t.form.Plain j := by
  cases plain with
  | scalar scalar =>
    cases w
    case list | overwrites | record | channel | channelChange | event => cases scalar
    all_goals cases known
  | object composed each => exact each key j t given known value

theorem Plain.exists_name {w : Form} {j : Json} (plain : w.Plain j) (named : w.isName) :
    ∃ s, j = .string s := by
  cases plain with
  | scalar _ unnamed => rw [named] at unnamed; cases unnamed
  | name => exact ⟨_, rfl⟩
  | list items => cases w <;> cases named <;> cases items
  | object composed => cases w <;> cases named <;> cases composed

/-- A plain document of a form with keys is an object. -/
theorem Plain.exists_object {w : Form} {j : Json} (plain : w.Plain j)
    (keyed : w.isObject ∨ w = .event) : ∃ o, j = .object o := by
  have composed : w.isScalar = false := by
    rcases keyed with object | rfl
    · cases w <;> first | rfl | cases object
    · rfl
  have single : w.item? = none := by
    rcases keyed with object | rfl
    · cases w <;> first | rfl | cases object
    · rfl
  cases plain with
  | scalar scalar => cases composed.symm.trans scalar
  | name named => cases w <;> cases named <;> cases composed
  | list items => cases single.symm.trans items
  | object => exact ⟨_, rfl⟩

theorem parts_event {o : Object} {d : Dispatch} (named : o.values "t" = [.string d.name]) :
    event.parts o = [("t", .plain dispatch), ("d", .plain d.form)] := by
  simp [parts, Event.dispatch?_eq_some.mpr named]

end Form

namespace Event

variable {r : Reading} {o : Object} {t : Json} {d : Dispatch}

theorem reading_held : reading .held o = .held := by
  unfold reading
  split <;> rfl

/-- A plain event gives the name of its dispatch as a string. -/
theorem plain_name (plain : Form.event.Plain (.object o)) (named : o.values "t" = [t])
    (dispatch : Dispatch.codec.read r t = .ok d) : t = .string d.name := by
  have given : ("t", t) ∈ o := Object.mem_of_values_eq named
  have plain : Form.dispatch.Plain t := by
    refine plain.part given List.mem_cons_self ?_
    rintro rfl
    cases dispatch
  obtain ⟨s, rfl⟩ := plain.exists_name rfl
  rw [Codec.eq_name_of_member dispatch]

theorem plain_payload (plain : Form.event.Plain (.object o)) (named : o.values "t" = [t])
    (dispatch : Dispatch.codec.read r t = .ok d) {p : Json} (payload : o.values "d" = [p])
    (value : p ≠ .null) : d.form.Plain p := by
  have given : ("d", p) ∈ o := Object.mem_of_values_eq payload
  have name := plain_name plain named dispatch
  subst name
  refine plain.part (t := .plain d.form) given ?_ value
  rw [Form.parts_event named]
  exact List.mem_cons_of_mem _ List.mem_cons_self

/-- A plain event names its dispatch as a string, and its payload is a plain object. -/
theorem exists_of_plain (readable : (Json.object o).isReadable)
    (plain : Form.event.Plain (.object o)) {e : Event} (read : codec.read r (.object o) = .ok e) :
    ∃ (d : Dispatch) (po : Object) (v : d.form.Value), o.values "t" = [.string d.name] ∧
      o.values "d" = [.object po] ∧ d.form.Plain (.object po) ∧
      d.form.codec.read (d.reading (reading r o)) (.object po) = .ok v ∧ d.make v = e := by
  obtain ⟨t, d, p, named, dispatch, payload, reads⟩ := exists_of_read readable read
  obtain rfl := plain_name plain named dispatch
  have plainPayload := plain_payload plain named dispatch payload (ne_null_of_readPayload reads)
  obtain ⟨po, rfl⟩ := plainPayload.exists_object (.inl d.isObject_form)
  rw [read_object readable named dispatch payload] at read
  obtain ⟨v, read, made⟩ := map_eq_ok.mp read
  exact ⟨d, po, v, named, payload, plainPayload, read, made⟩

end Event

/-! ### Scalars and lists -/

namespace Codec

variable {α β : Type} {codec : Codec α} {r r' : Reading} {j : Json} {a : α}

theorem integer_read {low high : Int} {ofInt : Int → α} {toInt : α → Int} :
    (integer low high ofInt toInt).read r j = (integer low high ofInt toInt).read r' j := by
  cases j
  case number n => cases n <;> rfl
  all_goals rfl

/-- What is read directly as a name in an object has `null` under the only key. -/
theorem isNothing_held {content : Json} (h : isNothing .direct content) :
    isNothing .held content := by
  cases content
  case null => rfl
  all_goals simp [isNothing] at h

theorem named_read {members : List α} {name : α → String} (h : r' = .held ∨ ∃ s, j = .string s)
    (read : (named members name).read r j = .ok a) : (named members name).read r' j = .ok a := by
  rcases h with rfl | ⟨s, rfl⟩
  · cases r
    case held => exact read
    case direct =>
      -- A name as the only key: what counts as nothing directly does so when held, not conversely.
      cases j
      case string s => exact read
      case object o =>
        match o with
        | [] => cases read
        | (s, content) :: others =>
          obtain ⟨b, member, read⟩ := bind_eq_ok.mp read
          split at read
          next nothing =>
            rw [Bool.and_eq_true] at nothing
            simp only [named, member, nothing.1, isNothing_held nothing.2]
            exact read
          next => cases read
      all_goals cases read
  · exact read

theorem tag_read {members : List α} {name : α → String} (h : r' = .held ∨ ∃ s, j = .string s)
    (read : (tag members name).read r j = .ok a) : (tag members name).read r' j = .ok a := by
  rcases h with rfl | ⟨s, rfl⟩
  · exact tag_read_held read
  · exact read

theorem mapM_eq_ok {f : Json → Except DecodeError α} {js : List Json} {as : List α} :
    js.mapM f = .ok as ↔ List.Forall₂ (fun j a => f j = .ok a) js as := by
  induction js generalizing as with
  | nil =>
    rw [List.mapM_nil, List.forall₂_nil_left_iff]
    simp [pure, Except.pure, eq_comm]
  | cons j js ih =>
    rw [List.mapM_cons, List.forall₂_cons_left_iff]
    constructor
    · intro read
      obtain ⟨a, head, read⟩ := bind_eq_ok.mp read
      obtain ⟨as', tail, read⟩ := bind_eq_ok.mp read
      cases read
      exact ⟨a, as', head, ih.mp tail, rfl⟩
    · rintro ⟨a, as', head, tail, rfl⟩
      exact bind_eq_ok.mpr ⟨a, head, bind_eq_ok.mpr ⟨as', ih.mpr tail, rfl⟩⟩

/-- A list is read item by item. -/
theorem list_read_eq_ok {as : List α} : codec.list.read r j = .ok as ↔
    ∃ js, j = .array js ∧ List.Forall₂ (fun j a => codec.read r j = .ok a) js as := by
  cases j
  case array js => simp [list, mapM_eq_ok]
  all_goals simp [list]

/-- The first item that is not read gives the error of the list. -/
theorem list_read_eq_error {e : DecodeError} {before after : List Json}
    (front : ∀ i ∈ before, ∃ a, codec.read r i = .ok a) (fails : codec.read r j = .error e) :
    codec.list.read r (.array (before ++ j :: after)) = .error e := by
  change (before ++ j :: after).mapM (codec.read r) = .error e
  induction before with
  | nil =>
    rw [List.nil_append, List.mapM_cons, fails]
    rfl
  | cons i before ih =>
    obtain ⟨⟨a, read⟩, front⟩ := List.forall_mem_cons.mp front
    rw [List.cons_append, List.mapM_cons, read, ih front]
    rfl

end Codec

/-! ### Either way of reading -/

/--
What is read in one way is read in the other: what was read directly also when it is held, and a
plain document always.
-/
def Form.ReadsAlike (w : Form) : Prop := ∀ {r r' : Reading} {j : Json} {v : w.Value},
  j.isReadable → r' = .held ∨ w.Plain j → w.codec.read r j = .ok v → w.codec.read r' j = .ok v

namespace Form

theorem readsAlike_scalar {w : Form} (scalar : w.isScalar) : w.ReadsAlike := by
  intro r r' j v readable either read
  have name (named : w.isName) : r' = .held ∨ ∃ s, j = .string s :=
    either.imp_right fun plain => plain.exists_name named
  cases w
  case word8 | word32 | word64 | int32 | int64 => exact Codec.integer_read.trans read
  case bool | string | timestamp => cases j <;> exact read
  case permissions =>
    obtain ⟨a, read, made⟩ := map_eq_ok.mp read
    exact map_eq_ok.mpr ⟨a, Codec.integer_read.trans read, made⟩
  case overwriteKind | threadKind | onlineStatus | scheduledEventStatus | dispatch =>
    exact Codec.named_read (name rfl) read
  case kind k =>
    rw [codec, ChannelKind.nameCodec_read_eq_ok] at read ⊢
    exact Codec.tag_read (name rfl) read
  all_goals cases scalar

theorem ReadsAlike.list {item : Form} (alike : item.ReadsAlike) : (list item).ReadsAlike := by
  intro r r' j vs readable either read
  obtain ⟨js, rfl, each⟩ := Codec.list_read_eq_ok.mp read
  rw [Json.readable_array] at readable
  have plain (i : Json) (member : i ∈ js) : r' = .held ∨ item.Plain i := by
    refine either.imp_right fun plain => ?_
    cases plain with
    | scalar scalar => cases scalar
    | list items each => cases items; exact each i member
  refine Codec.list_read_eq_ok.mpr ⟨js, rfl, ?_⟩
  refine ((List.forall₂_and_left js vs).mpr ⟨fun i member => member, each⟩).imp ?_
  rintro i v ⟨member, read⟩
  exact alike (readable i member) (plain i member) read

theorem ReadsAlike.overwrites (alike : (Form.list (.entity .overwrite)).ReadsAlike) :
    Form.overwrites.ReadsAlike := by
  intro r r' j v readable either read
  obtain ⟨entries, read, made⟩ := map_eq_ok.mp read
  refine map_eq_ok.mpr ⟨entries, alike readable (either.imp_right fun plain => ?_) read, made⟩
  cases plain with
  | scalar scalar => cases scalar
  | name named => cases named
  | list items each => exact .list items each
  | object composed each => exact .object rfl fun key i part _ known => by cases known

/-- No form has `null` among its documents. -/
theorem read_null (w : Form) (r : Reading) : w.codec.read r .null = .error .invalid := by
  cases w <;> rfl

end Form

theorem FieldType.read_option {form : Form} {r : Reading} {j : Json} (value : j ≠ .null) :
    (FieldType.option form).codec.read r j = (form.codec.read r j).map some := by
  cases j
  case null => exact absurd rfl value
  all_goals rfl

theorem FieldType.read_alike {t : FieldType} (alike : t.form.ReadsAlike) {r r' : Reading} {j : Json}
    (readable : j.isReadable) (either : r' = .held ∨ (j ≠ .null → t.form.Plain j)) {a : t.Value}
    (read : t.codec.read r j = .ok a) : t.codec.read r' j = .ok a := by
  cases t with
  | plain form =>
    refine alike readable (either.imp_right fun plain => plain ?_) read
    rintro rfl
    exact absurd (read.symm.trans (form.read_null r)) (by simp)
  | option form =>
    by_cases null : j = .null
    · subst null
      exact read
    · rw [read_option null] at read ⊢
      obtain ⟨b, read, made⟩ := map_eq_ok.mp read
      exact map_eq_ok.mpr ⟨b, alike readable (either.imp_right fun plain => plain null) read, made⟩

theorem Slot.read_alike {σ : Type} {f : Slot σ} (alike : f.type.form.ReadsAlike) {r r' : Reading}
    {o : Object} (readable : (Json.object o).isReadable)
    (either : r' = .held ∨ ∀ j, (f.key, j) ∈ o → j ≠ .null → f.type.form.Plain j)
    {a : f.type.Value} (read : f.read r o = .ok a) : f.read r' o = .ok a := by
  rcases Field.read_eq_ok.mp read with absent | ⟨j, one, read⟩
  · exact Field.read_eq_ok.mpr (.inl absent)
  · have member : (f.key, j) ∈ o := Object.mem_of_values_eq one
    refine Field.read_eq_ok.mpr (.inr ⟨j, one, FieldType.read_alike alike
      (Json.readable_of_values readable one) ?_ read⟩)
    rcases either with rfl | plain
    · exact .inl reading_held
    · exact .inr (plain j member)

/-! ### Items -/

theorem Field.readItem_held {t : FieldType} {absent : Option t.Value} {omits : t.Value → Bool}
    {key : String} (alike : t.form.ReadsAlike) {r : Reading} {items behind : List Json}
    {a : t.Value} (readable : ∀ j ∈ items, j.isReadable)
    (read : (Field.mk key t.codec absent omits).readItem r items = .ok (a, behind)) :
    (Field.mk key t.codec absent omits).readItem .held items = .ok (a, behind) ∧
      ∀ j ∈ behind, j.isReadable := by
  rcases readItem_eq_ok.mp read with ⟨rfl, rfl, default⟩ | ⟨j, rfl, value⟩
  · exact ⟨readItem_eq_ok.mpr (.inl ⟨rfl, rfl, default⟩), List.forall_mem_nil _⟩
  · rw [List.forall_mem_cons] at readable
    have held : t.codec.read .held j = .ok a :=
      FieldType.read_alike alike readable.1 (.inl rfl) value
    exact ⟨readItem_eq_ok.mpr (.inr ⟨j, rfl, held⟩), readable.2⟩

/-- What is read directly from the items of an array is also read from items that are held. -/
theorem Describes.readItems_held {σ α : Type} {slots : List (Slot σ)} {proj : σ → α}
    {layout : Layout α} (h : Describes slots proj layout)
    (alike : ∀ f ∈ slots, f.type.form.ReadsAlike) {r : Reading} :
    ∀ {items behind : List Json} {a : α},
      (∀ j ∈ items, j.isReadable) → layout.readItems r items = .ok (a, behind) →
        layout.readItems .held items = .ok (a, behind) ∧ ∀ j ∈ behind, j.isReadable := by
  induction h with
  | last f =>
    intro items behind a readable read
    exact Field.readItem_held (List.forall_mem_singleton.mp alike) readable read
  | cons others own ih =>
    intro items behind ab readable read
    rw [List.forall_mem_cons] at alike
    obtain ⟨between, head, tail⟩ := Layout.and_readItems_eq_ok.mp read
    obtain ⟨head, readable⟩ := Field.readItem_held alike.1 readable head
    obtain ⟨tail, readable⟩ := ih alike.2 readable tail
    exact ⟨Layout.and_readItems_eq_ok.mpr ⟨between, head, tail⟩, readable⟩
  | beside =>
    -- Nothing is spread over an array.
    intro items behind ab readable read
    cases read
  | as inner _ _ ih =>
    intro items behind b readable read
    obtain ⟨⟨a, behind'⟩, read, made⟩ := map_eq_ok.mp read
    cases made
    obtain ⟨read, readable⟩ := ih alike readable read
    exact ⟨map_eq_ok.mpr ⟨_, read, rfl⟩, readable⟩
  | kind =>
    intro items behind c readable read
    obtain ⟨c', content, made⟩ := map_eq_ok.mp read
    cases made
    exact ⟨map_eq_ok.mpr ⟨_, Channel.readItems_held content, rfl⟩, List.forall_mem_nil _⟩

/-! ### Forms with keys -/

namespace Form

variable {w : Form} {r r' : Reading}

theorem readsAlike_members (object : w.isObject)
    (parts : ∀ s : Schema, s.form = w → ∀ f ∈ s.slots, f.type.form.ReadsAlike) {o : Object}
    {v : w.Value} (readable : (Json.object o).isReadable)
    (either : r' = .held ∨ w.Plain (.object o)) (read : w.codec.read r (.object o) = .ok v) :
    w.codec.read r' (.object o) = .ok v := by
  obtain ⟨s, schema, rfl, c, rfl⟩ := exists_content object readable read
  rw [Schema.read_eq_ok fun _ => readable] at read ⊢
  intro f member
  refine Slot.read_alike (parts s rfl f member) readable ?_ (read f member)
  refine either.imp_right fun plain j given => plain.part given ?_
  rw [parts_of_schema? schema]
  exact List.mem_map_of_mem member

theorem readsAlike_items (object : w.isObject)
    (parts : ∀ s : Schema, s.form = w → ∀ f ∈ s.slots, f.type.form.ReadsAlike) {items : List Json}
    {v : w.Value} (readable : (Json.array items).isReadable)
    (read : w.codec.read r (.array items) = .ok v) :
    w.codec.read .held (.array items) = .ok v := by
  cases w
  case record s =>
    rw [Json.readable_array] at readable
    have alike := parts (.record s) rfl
    exact Layout.readArray_eq_ok.mpr
      (s.described.readItems_held alike readable (Layout.readArray_eq_ok.mp read)).1
  case channel =>
    -- A readable channel is read as its layout says, and what follows its kind is held anyway.
    have whole := Codec.whole_read Channel.layout.codec readable
    obtain ⟨c, read, made⟩ := map_eq_ok.mp (Layout.readArray_eq_ok.mp ((whole r).symm.trans read))
    cases made
    exact (whole .held).trans (Layout.readArray_eq_ok.mpr
      (map_eq_ok.mpr ⟨_, Channel.readItems_held read, rfl⟩))
  case channelChange => cases read
  all_goals cases object

theorem readsAlike_object (object : w.isObject)
    (parts : ∀ s : Schema, s.form = w → ∀ f ∈ s.slots, f.type.form.ReadsAlike) : w.ReadsAlike := by
  intro r r' j v readable either read
  cases j
  case object o => exact readsAlike_members object parts readable either read
  case array items =>
    -- A plain document is no array, so this one is held.
    have notPlain (plain : w.Plain (.array items)) : False := by
      obtain ⟨o, same⟩ := plain.exists_object (.inl object)
      cases same
    obtain rfl := either.resolve_right notPlain
    exact readsAlike_items object parts readable read
  all_goals
    cases w
    case record | channel | channelChange => cases read
    all_goals cases object

end Form

/-! ### Events -/

/-- A payload is read alike when its form is, because what is spread is held in any case. -/
theorem Event.readPayload_alike {d : Dispatch} (alike : d.form.ReadsAlike) {r r' : Reading}
    {p : Json} {e : Event} (readable : p.isReadable) (either : r' = .held ∨ d.form.Plain p)
    (read : readPayload r d p = .ok e) : readPayload r' d p = .ok e := by
  rw [readPayload_eq] at read ⊢
  obtain ⟨v, read, made⟩ := map_eq_ok.mp read
  refine map_eq_ok.mpr ⟨v, ?_, made⟩
  cases d
  case messageCreate | channelCreate | guildScheduledEventCreate | stageInstanceCreate |
      guildMemberAdd =>
    cases p <;> exact read
  all_goals exact alike readable either read

namespace Form

theorem readsAlike_event (payloads : ∀ d : Dispatch, d.form.ReadsAlike) : event.ReadsAlike := by
  intro r r' j e readable either read
  cases j
  case object o =>
    -- The name is read alike, so the payload is read as the same form, though perhaps held.
    obtain ⟨t, d, p, named, dispatch, payload, reads⟩ := Event.exists_of_read readable read
    have dispatch' : Dispatch.codec.read r' t = .ok d := by
      refine Codec.named_read (either.imp_right fun plain => ?_) dispatch
      exact ⟨_, Event.plain_name plain named dispatch⟩
    refine (Event.codec_read readable named dispatch' payload).trans ?_
    refine Event.readPayload_alike (payloads d) (Json.readable_of_values readable payload) ?_ reads
    refine either.imp ?_ fun plain =>
      Event.plain_payload plain named dispatch payload (Event.ne_null_of_readPayload reads)
    rintro rfl
    exact Event.reading_held
  case array items =>
    have notPlain (plain : event.Plain (.array items)) : False := by
      obtain ⟨o, same⟩ := plain.exists_object (.inr rfl)
      cases same
    obtain rfl := either.resolve_right notPlain
    obtain ⟨t, d, p, rfl, named, reads⟩ := Event.readArray_eq_ok.mp read
    have readable : p.isReadable := Json.readable_array.mp readable p (by simp)
    refine Event.readArray_eq_ok.mpr ⟨t, d, p, rfl, Codec.tag_read_held named, ?_⟩
    exact Event.readPayload_alike (payloads d) readable (.inl rfl) reads
  all_goals cases read

/-- Every form reads alike. -/
theorem readsAlike (w : Form) : w.ReadsAlike := by
  induction w using Form.induction with
  | scalar w scalar => exact readsAlike_scalar scalar
  | list item ih => exact ih.list
  | overwrites ih => exact ih.overwrites
  | object w object ih => exact readsAlike_object object ih
  | event ih => exact readsAlike_event ih

end Form

end GatewayCache
