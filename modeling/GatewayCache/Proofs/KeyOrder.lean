import GatewayCache.Codec.Text
import GatewayCache.Proofs.Schema.Reading
import Mathlib.Logic.Relation

/-!
What does not matter in a document: the order of the keys of an object, and keys without a meaning,
however often they occur. And what does: a key with a meaning must not occur twice. Both are said of
a change of one object that may lie anywhere in the document, and of documents that are readable
throughout, because in what is held the parts without a meaning have to be readable, too.
-/
namespace GatewayCache

open Json (Object)

/-! ### Changes of a document -/

namespace Form

/-- A change of one object somewhere in a document of the form. -/
inductive Within (change : Form → Object → Object → Prop) : Form → Json → Json → Prop
  | here {w : Form} {o o' : Object} (changed : change w o o') :
      Within change w (.object o) (.object o')
  | member {w : Form} {before after : Object} {key : String} {t : FieldType} {j j' : Json}
      (known : (key, t) ∈ w.parts (before ++ (key, j) :: after))
      (inner : Within change t.form j j') :
      Within change w (.object (before ++ (key, j) :: after))
        (.object (before ++ (key, j') :: after))
  | item {w item : Form} {before after : List Json} {j j' : Json} (items : w.item? = some item)
      (inner : Within change item j j') :
      Within change w (.array (before ++ j :: after)) (.array (before ++ j' :: after))

/-- A key has a meaning in an object of the form. -/
def Knows (w : Form) (o : Object) (key : String) : Prop := ∃ t, (key, t) ∈ w.parts o

/--
The keys of an object are put in another order, a key without a meaning comes in anywhere, or what
stands under one is replaced.
-/
inductive Rearranges (w : Form) : Object → Object → Prop
  | reorder {o o' : Object} (perm : o.Perm o') : Rearranges w o o'
  | insert {before after : Object} {key : String} {j : Json}
      (unknown : ¬w.Knows (before ++ after) key) (readable : j.isReadable) :
      Rearranges w (before ++ after) (before ++ (key, j) :: after)
  | replace {before after : Object} {key : String} {j j' : Json}
      (unknown : ¬w.Knows (before ++ (key, j) :: after) key) (readable : j'.isReadable) :
      Rearranges w (before ++ (key, j) :: after) (before ++ (key, j') :: after)

/--
A key with a meaning that is there comes in once more: anywhere with a value of its type, or behind
the first with any value.
-/
inductive Doubles (key : String) (w : Form) : Object → Object → Prop
  | copy {before after : Object} {t : FieldType} {j : Json}
      (known : (key, t) ∈ w.parts (before ++ after))
      (present : Object.values (before ++ after) key ≠ []) (readable : j.isReadable)
      (value : (∃ a, t.codec.decode j = .ok a) ∨ Object.values before key ≠ []) :
      Doubles key w (before ++ after) (before ++ (key, j) :: after)

end Form

/-! ### Values under the keys -/

namespace Json

theorem Object.values_perm {o o' : Object} (perm : o.Perm o') (key : String) :
    (o.values key).Perm (o'.values key) := perm.filterMap _

end Json

namespace Form.Within

variable {change : Form → Object → Object → Prop} {w : Form} {j j' : Json}

theorem ne_null (h : Within change w j j') : j ≠ .null ∧ j' ≠ .null := by
  cases h <;> simp

/-- A change that keeps its object readable keeps the document readable. -/
theorem readable (keeps : ∀ w o o', change w o o' → (Json.object o).isReadable →
    (Json.object o').isReadable) (h : Within change w j j') (readable : j.isReadable) :
    j'.isReadable := by
  induction h with
  | here changed => exact keeps _ _ _ changed readable
  | member known inner ih =>
    rw [Json.readable_object, List.forall_mem_append, List.forall_mem_cons] at readable ⊢
    exact ⟨readable.1, ih readable.2.1, readable.2.2⟩
  | item items inner ih =>
    rw [Json.readable_array, List.forall_mem_append, List.forall_mem_cons] at readable ⊢
    exact ⟨readable.1, ih readable.2.1, readable.2.2⟩

end Form.Within

theorem Form.Rearranges.readable {w : Form} {o o' : Object} (h : w.Rearranges o o')
    (readable : (Json.object o).isReadable) : (Json.object o').isReadable := by
  rw [Json.readable_object] at readable ⊢
  cases h with
  | reorder perm => exact fun m member => readable m (perm.mem_iff.mpr member)
  | insert unknown new =>
    rw [List.forall_mem_append] at readable ⊢
    exact ⟨readable.1, List.forall_mem_cons.mpr ⟨new, readable.2⟩⟩
  | replace unknown new =>
    rw [List.forall_mem_append, List.forall_mem_cons] at readable ⊢
    exact ⟨readable.1, new, readable.2.2⟩

/-! ### Documents that stand for the same value -/

/-- Another document stands for the same value, and is as plain. -/
def Form.Keeps (w : Form) (j j' : Json) : Prop := ∀ {r : Reading} {v : w.Value},
  j.isReadable → j'.isReadable → w.Plain j → w.codec.read r j = .ok v →
    w.Plain j' ∧ w.codec.read r j' = .ok v

@[inherit_doc Form.Keeps]
def FieldType.Keeps (t : FieldType) (j j' : Json) : Prop := ∀ {r : Reading} {a : t.Value},
  j.isReadable → j'.isReadable → (j ≠ .null → t.form.Plain j) → t.codec.read r j = .ok a →
    (j' ≠ .null → t.form.Plain j') ∧ t.codec.read r j' = .ok a

theorem FieldType.keeps_refl (t : FieldType) (j : Json) : t.Keeps j j :=
  fun _ _ plain read => ⟨plain, read⟩

theorem FieldType.keeps_of_form {t : FieldType} {j j' : Json} (value : j ≠ .null)
    (value' : j' ≠ .null) (h : t.form.Keeps j j') : t.Keeps j j' := by
  intro r a readable readable' plain read
  cases t with
  | plain form =>
    obtain ⟨plain', read'⟩ := h readable readable' (plain value) read
    exact ⟨fun _ => plain', read'⟩
  | option form =>
    rw [read_option value] at read
    obtain ⟨b, read, made⟩ := map_eq_ok.mp read
    obtain ⟨plain', read'⟩ := h readable readable' (plain value) read
    refine ⟨fun _ => plain', ?_⟩
    rw [read_option value']
    exact map_eq_ok.mpr ⟨b, read', made⟩

/-- Under each key with a meaning, both objects have nothing, or values that stand for the same. -/
def Form.SameParts (w : Form) (o o' : Object) : Prop := ∀ key t, (key, t) ∈ w.parts o →
  (o.values key = [] → o'.values key = []) ∧
    ∀ j, o.values key = [j] → ∃ j', o'.values key = [j'] ∧ t.Keeps j j'

theorem Form.Rearranges.sameParts {w : Form} {o o' : Object} (h : w.Rearranges o o') :
    w.SameParts o o' := by
  intro key t known
  have values : (o.values key).Perm (o'.values key) := by
    cases h with
    | reorder perm => exact Object.values_perm perm key
    | @insert before after other j unknown _ =>
      have ne : other ≠ key := by rintro rfl; exact unknown ⟨t, known⟩
      rw [Object.values_insert_of_ne ne]
    | @replace before after other j j' unknown _ =>
      have ne : other ≠ key := by rintro rfl; exact unknown ⟨t, known⟩
      rw [Object.values_insert_of_ne ne, Object.values_insert_of_ne ne]
  constructor
  · intro none
    rw [none] at values
    exact values.nil_eq.symm
  · intro j one
    rw [one] at values
    exact ⟨j, List.singleton_perm.mp values |>.symm, t.keeps_refl j⟩

/-- A key with a meaning is absent or occurs once, and its value is of its type. -/
def Form.ReadsParts (w : Form) (o : Object) : Prop := ∀ key t, (key, t) ∈ w.parts o →
  o.values key = [] ∨ ∃ j r a, o.values key = [j] ∧ t.codec.read r j = .ok a

theorem Form.SameParts.plain {w : Form} {o o' : Object} (same : w.SameParts o o')
    (parts : w.parts o' = w.parts o) (reads : w.ReadsParts o)
    (readable : (Json.object o).isReadable) (readable' : (Json.object o').isReadable)
    (composed : w.isScalar = false) (plain : w.Plain (.object o)) : w.Plain (.object o') := by
  refine .object composed fun key i t given known value => ?_
  rw [parts] at known
  have found := Object.mem_values.mpr given
  obtain ⟨absent, kept⟩ := same key t known
  rcases reads key t known with none | ⟨j, r, a, one, read⟩
  · rw [absent none] at found
    cases found
  · obtain ⟨j', one', keeps⟩ := kept j one
    rw [one', List.mem_singleton] at found
    subst found
    have member : (key, j) ∈ o := Object.mem_of_values_eq one
    refine (keeps (Json.readable_of_values readable one) (Json.readable_of_values readable' one')
      (fun value => plain.part member known value) read).1 value

/-! ### Objects with a table -/

namespace Schema

variable {s : Schema} {r : Reading} {o o' : Object}

theorem mem_parts {f : Slot s.Value} (member : f ∈ s.slots) : (f.key, f.type) ∈ s.parts :=
  List.mem_map_of_mem member

/-- All slots read an object of their schema only. -/
theorem schema?_of_succeeds (all : ∀ f ∈ s.slots, f.Succeeds r o) : s.form.schema? o = some s := by
  have kind {σ : Type} {k : ChannelKind} {r : Reading}
      (read : (Slot.kind k : Slot σ).Succeeds r o) : Channel.kind? o = some k := by
    obtain ⟨u, read⟩ := read
    exact Channel.kind?_of_tag (Channel.kindSlot_read_eq_ok.mp read)
  cases s with
  | record s => rfl
  | channel k => simp [Form.schema?, kind (all _ List.mem_cons_self)]
  | channelChange k =>
    have read := all _ (List.mem_append_left _ List.mem_cons_self)
    simp [Form.schema?, kind (Slot.inPart_succeeds.mp read)]

end Schema

theorem Slot.reads_part {σ : Type} {f : Slot σ} {r : Reading} {o : Object} {a : f.type.Value}
    (read : f.read r o = .ok a) :
    o.values f.key = [] ∨ ∃ j r a, o.values f.key = [j] ∧ f.type.codec.read r j = .ok a := by
  rcases Field.read_eq_ok.mp read with ⟨none, -⟩ | ⟨j, one, read⟩
  · exact .inl none
  · exact .inr ⟨j, _, a, one, read⟩

theorem Form.keeps_object {w : Form} (object : w.isObject) {o o' : Object}
    (same : w.SameParts o o') : w.Keeps (.object o) (.object o') := by
  intro r v readable readable' plain read
  -- Which keys have a meaning depends on the object, so the schema is found before they are used.
  obtain ⟨s, schema, rfl, c, rfl⟩ := exists_content object readable read
  have composed : s.form.isScalar = false := by cases s <;> rfl
  have parts := parts_of_schema? schema
  rw [Schema.read_eq_ok fun _ => readable] at read
  have read' : ∀ f ∈ s.slots, f.read r o' = .ok (f.get c) := by
    intro f member
    have known : (f.key, f.type) ∈ s.form.parts o := parts ▸ s.mem_parts member
    obtain ⟨absent, kept⟩ := same f.key f.type known
    rcases Field.read_eq_ok.mp (read f member) with ⟨none, default⟩ | ⟨j, one, value⟩
    · exact Field.read_eq_ok.mpr (.inl ⟨absent none, default⟩)
    · obtain ⟨j', one', keeps⟩ := kept j one
      have given : (f.key, j) ∈ o := Object.mem_of_values_eq one
      refine Field.read_eq_ok.mpr (.inr ⟨j', one', ?_⟩)
      exact (keeps (Json.readable_of_values readable one) (Json.readable_of_values readable' one')
        (fun value => plain.part given known value) value).2
  refine ⟨?_, (Schema.read_eq_ok fun _ => readable').mpr read'⟩
  -- All slots read the second object, so it has the same schema, and is plain for the same keys.
  have schema' := Schema.schema?_of_succeeds fun f member => ⟨_, read' f member⟩
  refine same.plain (by rw [parts, parts_of_schema? schema']) ?_ readable readable' composed plain
  intro key t known
  rw [parts] at known
  obtain ⟨f, member, found⟩ := List.mem_map.mp known
  cases found
  exact Slot.reads_part (read f member)

/-! ### Events -/

theorem Form.keeps_event {o o' : Object} (same : event.SameParts o o') :
    event.Keeps (.object o) (.object o') := by
  intro r e readable readable' plain read
  obtain ⟨d, po, v, named, payload, plainPayload, value, rfl⟩ :=
    Event.exists_of_plain readable plain read
  have dispatch := d.codec_read_name r
  have parts := parts_event named
  obtain ⟨t', named', keepsName⟩ := (same "t" (.plain .dispatch) (by simp [parts])).2 _ named
  obtain ⟨p', payload', keepsPayload⟩ := (same "d" (.plain d.form) (by simp [parts])).2 _ payload
  obtain ⟨plainName', dispatch'⟩ := keepsName (Json.readable_of_values readable named)
    (Json.readable_of_values readable' named') (fun _ => .name rfl) dispatch
  obtain rfl : t' = .string d.name := by
    have value : t' ≠ .null := by rintro rfl; cases dispatch'
    obtain ⟨s, rfl⟩ := (plainName' value).exists_name rfl
    rw [Codec.eq_name_of_member dispatch']
  obtain ⟨plain', value'⟩ := keepsPayload (Json.readable_of_values readable payload)
    (Json.readable_of_values readable' payload') (fun _ => plainPayload) value
  have plain' : d.form.Plain p' := plain' fun null => by
    subst null
    exact absurd (value'.symm.trans (d.form.read_null _)) (by simp)
  obtain ⟨po', rfl⟩ := plain'.exists_object (.inl d.isObject_form)
  constructor
  · refine same.plain (by rw [parts, parts_event named']) ?_ readable readable' rfl plain
    intro key t known
    simp only [parts, List.mem_cons, List.not_mem_nil, or_false, Prod.mk.injEq] at known
    rcases known with ⟨rfl, rfl⟩ | ⟨rfl, rfl⟩
    · exact .inr ⟨_, r, d, named, dispatch⟩
    · exact .inr ⟨_, _, v, payload, value⟩
  · -- The dispatch may now stand behind the payload, or before it.
    have alike : d.form.codec.read (d.reading (Event.reading r o')) (.object po') = .ok v :=
      readsAlike d.form (Json.readable_of_values readable' payload') (.inr plain') value'
    exact (Event.read_object readable' named' dispatch' payload').trans
      (map_eq_ok.mpr ⟨v, alike, rfl⟩)

/-! ### Lists -/

theorem forall₂_replace {α : Type} {R : Json → α → Prop} {before after : List Json} {j j' : Json}
    {as : List α} (imp : ∀ a, R j a → R j' a) (each : List.Forall₂ R (before ++ j :: after) as) :
    List.Forall₂ R (before ++ j' :: after) as := by
  induction before generalizing as with
  | nil =>
    cases each with
    | cons head tail => exact .cons (imp _ head) tail
  | cons i before ih =>
    cases each with
    | cons head tail => exact .cons head (ih tail)

theorem exists_of_forall₂ {α : Type} {R : Json → α → Prop} {js : List Json} {as : List α} {j : Json}
    (each : List.Forall₂ R js as) (member : j ∈ js) : ∃ a, R j a := by
  induction each with
  | nil => cases member
  | cons head tail ih =>
    rcases List.mem_cons.mp member with rfl | member
    · exact ⟨_, head⟩
    · exact ih member

namespace Form

/-- What a list stands for depends on what its items stand for. -/
theorem read_items {w item : Form} (items : w.item? = some item) {r : Reading} {js : List Json}
    {v : w.Value} (read : w.codec.read r (.array js) = .ok v) :
    ∃ vs, List.Forall₂ (fun j v => item.codec.read r j = .ok v) js vs ∧
      ∀ js', List.Forall₂ (fun j v => item.codec.read r j = .ok v) js' vs →
        w.codec.read r (.array js') = .ok v := by
  have list {vs : List item.Value} {js : List Json}
      (each : List.Forall₂ (fun j v => item.codec.read r j = .ok v) js vs) :
      item.codec.list.read r (.array js) = .ok vs :=
    Codec.list_read_eq_ok.mpr ⟨js, rfl, each⟩
  cases w
  case list item' =>
    cases items
    obtain ⟨_, ⟨⟩, each⟩ := Codec.list_read_eq_ok.mp read
    exact ⟨v, each, fun js' each => list each⟩
  case overwrites =>
    cases items
    obtain ⟨entries, read, made⟩ := map_eq_ok.mp read
    obtain ⟨_, ⟨⟩, each⟩ := Codec.list_read_eq_ok.mp read
    exact ⟨entries, each, fun js' each => map_eq_ok.mpr ⟨entries, list each, made⟩⟩
  all_goals cases items

theorem Plain.items {w item : Form} (items : w.item? = some item) {js : List Json}
    (plain : w.Plain (.array js)) : ∀ j ∈ js, item.Plain j := by
  cases plain with
  | scalar scalar => cases w <;> cases items <;> cases scalar
  | list items' each => cases items.symm.trans items'; exact each

/-- In a list, an item may become another one that stands for the same. -/
theorem keeps_list {w item : Form} (items : w.item? = some item) {before after : List Json}
    {j j' : Json} (keeps : item.Keeps j j') :
    w.Keeps (.array (before ++ j :: after)) (.array (before ++ j' :: after)) := by
  intro r v readable readable' plain read
  rw [Json.readable_array] at readable readable'
  have member : j ∈ before ++ j :: after := by simp
  have each := plain.items items
  obtain ⟨vs, reads, change⟩ := read_items items read
  obtain ⟨_, readItem⟩ := exists_of_forall₂ reads member
  have kept {v : item.Value} (read : item.codec.read r j = .ok v) :
      item.Plain j' ∧ item.codec.read r j' = .ok v :=
    keeps (readable j member) (readable' j' (by simp)) (each j member) read
  constructor
  · rw [List.forall_mem_append, List.forall_mem_cons] at each
    refine .list items ?_
    rw [List.forall_mem_append, List.forall_mem_cons]
    exact ⟨each.1, (kept readItem).1, each.2.2⟩
  · exact change _ (forall₂_replace (fun a read => (kept read).2) reads)

/-! ### One step, and any number of them -/

/-- No key has two meanings in one object. -/
theorem parts_unique {w : Form} {o : Object} {key : String} {t t' : FieldType}
    (known : (key, t) ∈ w.parts o) (known' : (key, t') ∈ w.parts o) : t = t' := by
  have distinct : ((w.parts o).map Prod.fst).Nodup := by
    cases schema : w.schema? o with
    | some s =>
      rw [parts_of_schema? schema, Schema.parts, List.map_map]
      exact s.nodup_keys
    | none =>
      cases w
      case event => cases named : Event.dispatch? o <;> simp [parts, named]
      all_goals simp [parts, schema]
  have same := List.inj_on_of_nodup_map distinct known known' rfl
  exact congrArg Prod.snd same

/-- Only objects with a table and events are objects, of those that are plain. -/
theorem isObject_of_read {w : Form} {o : Object} (plain : w.Plain (.object o)) {r : Reading}
    {v : w.Value} (read : w.codec.read r (.object o) = .ok v) : w.isObject ∨ w = .event := by
  cases w
  case record | channel | channelChange => exact .inl rfl
  case event => exact .inr rfl
  case overwriteKind | threadKind | onlineStatus | scheduledEventStatus | dispatch =>
    obtain ⟨s, same⟩ := plain.exists_name rfl
    cases same
  all_goals cases read

theorem SameParts.keeps {w : Form} {o o' : Object} (same : w.SameParts o o') :
    w.Keeps (.object o) (.object o') := by
  intro r v readable readable' plain read
  rcases isObject_of_read plain read with object | rfl
  · exact keeps_object object same readable readable' plain read
  · exact keeps_event same readable readable' plain read

/-- A rearranged document stands for the same value, wherever it was rearranged. -/
theorem Within.keeps {w : Form} {j j' : Json} (h : Within Rearranges w j j') : w.Keeps j j' := by
  induction h with
  | here changed => exact changed.sameParts.keeps
  | @member w before after key t j j' known inner ih =>
    refine SameParts.keeps fun other t' known' => ?_
    -- Under the key itself the induction hypothesis applies, and other keys keep their values.
    by_cases same : key = other
    · subst same
      cases parts_unique known known'
      rw [Object.values_insert, Object.values_insert]
      refine ⟨by simp, fun i one => ?_⟩
      obtain ⟨front, rfl, back⟩ : Object.values before key = [] ∧ j = i ∧
          Object.values after key = [] := by
        simpa [List.append_eq_singleton_iff] using one
      refine ⟨j', by simp [front, back], ?_⟩
      exact FieldType.keeps_of_form inner.ne_null.1 inner.ne_null.2 ih
    · rw [Object.values_insert_of_ne same, Object.values_insert_of_ne same]
      exact ⟨id, fun i one => ⟨i, one, t'.keeps_refl i⟩⟩
  | item items inner ih => exact keeps_list items ih

theorem keeps_of_rearranged {w : Form} {j j' : Json} (readable : j.isReadable) (plain : w.Plain j)
    (changes : Relation.ReflTransGen (Within Rearranges w) j j') {r : Reading} {v : w.Value}
    (read : w.codec.read r j = .ok v) :
    j'.isReadable ∧ w.Plain j' ∧ w.codec.read r j' = .ok v := by
  induction changes with
  | refl => exact ⟨readable, plain, read⟩
  | tail _ step ih =>
    obtain ⟨readable, plain, read⟩ := ih
    have readable' := step.readable (fun _ _ _ changed => changed.readable) readable
    exact ⟨readable', step.keeps readable readable' plain read⟩

/-! ### A key that occurs twice -/

theorem Doubles.readable {key : String} {w : Form} {o o' : Object} (h : Doubles key w o o')
    (readable : (Json.object o).isReadable) : (Json.object o').isReadable := by
  rw [Json.readable_object] at readable ⊢
  cases h with
  | copy known present new value =>
    rw [List.forall_mem_append] at readable ⊢
    exact ⟨readable.1, List.forall_mem_cons.mpr ⟨new, readable.2⟩⟩

/-- Another document stands for no value, for the given reason. -/
def Fails (w : Form) (e : DecodeError) (j j' : Json) : Prop := ∀ {r : Reading} {v : w.Value},
  j.isReadable → j'.isReadable → w.Plain j → w.codec.read r j = .ok v →
    w.codec.read r j' = .error e

end Form

@[inherit_doc Form.Fails]
def FieldType.Fails (t : FieldType) (e : DecodeError) (j j' : Json) : Prop :=
  ∀ {r : Reading} {a : t.Value}, j.isReadable → j'.isReadable → (j ≠ .null → t.form.Plain j) →
    t.codec.read r j = .ok a → t.codec.read r j' = .error e

theorem FieldType.fails_of_form {t : FieldType} {e : DecodeError} {j j' : Json} (value : j ≠ .null)
    (value' : j' ≠ .null) (h : t.form.Fails e j j') : t.Fails e j j' := by
  intro r a readable readable' plain read
  cases t with
  | plain form => exact h readable readable' (plain value) read
  | option form =>
    rw [read_option value] at read
    obtain ⟨b, read, -⟩ := map_eq_ok.mp read
    rw [read_option value']
    exact map_eq_error.mpr (h readable readable' (plain value) read)

/-- Only one key has other values in the second object: too many of them, or one that fails. -/
structure Form.PartFails (w : Form) (e : DecodeError) (key : String) (t : FieldType)
    (o o' : Object) : Prop where
  known : (key, t) ∈ w.parts o
  present : o.values key ≠ []
  others : ∀ other, key ≠ other → o'.values other = o.values other
  fails : (1 < (o'.values key).length ∧ e = .duplicateField key) ∨
    ∀ j, o.values key = [j] → ∃ j', o'.values key = [j'] ∧ t.Fails e j j' ∧
      ∀ i, j = .object i → ∃ i', j' = .object i'

namespace Form.PartFails

variable {w : Form} {e : DecodeError} {key : String} {t : FieldType} {o o' : Object}

theorem read_slot {σ : Type} {f : Slot σ} (h : w.PartFails e f.key f.type o o')
    (readable : (Json.object o).isReadable) (readable' : (Json.object o').isReadable)
    (plain : w.Plain (.object o)) {r : Reading} {a : f.type.Value} (read : f.read r o = .ok a) :
    f.read r o' = .error e := by
  refine Field.read_eq_error.mpr (.inr ?_)
  rcases h.fails with ⟨several, same⟩ | fails
  · exact .inr ⟨several, same⟩
  · rcases Field.read_eq_ok.mp read with ⟨none, -⟩ | ⟨j, one, value⟩
    · exact absurd none h.present
    · obtain ⟨j', one', fails, -⟩ := fails j one
      have given : (f.key, j) ∈ o := Object.mem_of_values_eq one
      refine .inl ⟨j', one', fails (Json.readable_of_values readable one)
        (Json.readable_of_values readable' one') ?_ value⟩
      exact fun value => plain.part given h.known value

theorem object (h : w.PartFails e key t o o') (valid : e ≠ .invalid) (object : w.isObject) :
    w.Fails e (.object o) (.object o') := by
  intro r v readable readable' plain read
  obtain ⟨s, schema, rfl, c, rfl⟩ := exists_content object readable read
  have parts := parts_of_schema? schema
  rw [Schema.read_eq_ok fun _ => readable] at read
  rw [Schema.read_object fun _ => readable']
  have fails (f : Slot s.Value) (member : f ∈ s.slots) (same : f.key = key) :
      f.read r o' = .error e := by
    subst same
    have known : (f.key, f.type) ∈ s.form.parts o := parts ▸ s.mem_parts member
    cases parts_unique h.known known
    exact h.read_slot readable readable' plain (read f member)
  -- All other slots read what they read before, so this is the only error there is.
  refine s.described.read_eq_error readable' valid ?_ ?_
  · intro f member
    by_cases same : f.key = key
    · exact .inr (fails f member same)
    · refine .inl ⟨f.get c, ?_⟩
      rw [← read f member]
      simp only [Slot.read, Field.read, Slot.field, h.others f.key (Ne.symm same)]
  · have known := h.known
    rw [parts] at known
    obtain ⟨f, member, same⟩ := List.mem_map.mp known
    exact ⟨f, member, fails f member (congrArg Prod.fst same)⟩

theorem event (h : Form.event.PartFails e key t o o') :
    Form.event.Fails e (.object o) (.object o') := by
  intro r v readable readable' plain read
  obtain ⟨d, po, p, named, payload, plainPayload, value, -⟩ :=
    Event.exists_of_plain readable plain read
  have dispatch := d.codec_read_name r
  change Event.codec.read r (.object o') = .error e
  have known := h.known
  simp only [parts_event named, List.mem_cons, List.not_mem_nil, or_false, Prod.mk.injEq] at known
  rcases known with ⟨rfl, rfl⟩ | ⟨rfl, rfl⟩
  -- The dispatch is wrong.
  · refine Event.codec_read_eq_error (Layout.and_read_eq_error (.inl ?_))
    refine Field.read_eq_error.mpr (.inr ?_)
    rcases h.fails with ⟨several, same⟩ | fails
    · exact .inr ⟨several, same⟩
    · obtain ⟨j', one', fails, -⟩ := fails _ named
      exact .inl ⟨j', one', fails (Json.readable_of_values readable named)
        (Json.readable_of_values readable' one') (fun _ => .name rfl) dispatch⟩
  -- The payload is wrong.
  · have named' := (h.others "t" (by decide)).trans named
    rcases h.fails with ⟨several, same⟩ | fails
    · refine Event.codec_read_eq_error (Layout.and_read_eq_error (.inr ⟨⟨d, ?_⟩, ?_⟩))
      · exact Field.read_eq_ok.mpr (.inr ⟨_, named', dispatch⟩)
      · exact Field.read_eq_error.mpr (.inr (.inr ⟨several, same⟩))
    · obtain ⟨j', payload', fails, object⟩ := fails _ payload
      obtain ⟨po', rfl⟩ := object po rfl
      rw [Event.read_object readable' named' dispatch payload']
      -- The payload is read in the second object as it is in the first, or alike.
      have alike : d.form.codec.read (d.reading (Event.reading r o')) (.object po) = .ok p :=
        readsAlike d.form (Json.readable_of_values readable payload) (.inr plainPayload) value
      exact map_eq_error.mpr (fails (Json.readable_of_values readable payload)
        (Json.readable_of_values readable' payload') (fun _ => plainPayload) alike)

theorem fails_object (h : w.PartFails e key t o o') (valid : e ≠ .invalid) :
    w.Fails e (.object o) (.object o') := by
  intro r v readable readable' plain read
  rcases isObject_of_read plain read with object | rfl
  · exact h.object valid object readable readable' plain read
  · exact h.event readable readable' plain read

end Form.PartFails

namespace Form

theorem fails_list {w item : Form} (items : w.item? = some item) {before after : List Json}
    {j j' : Json} {e : DecodeError} (fails : item.Fails e j j') :
    w.Fails e (.array (before ++ j :: after)) (.array (before ++ j' :: after)) := by
  intro r v readable readable' plain read
  rw [Json.readable_array] at readable readable'
  have member : j ∈ before ++ j :: after := by simp
  obtain ⟨vs, reads, -⟩ := read_items items read
  obtain ⟨_, readItem⟩ := exists_of_forall₂ reads member
  have readItem' : item.codec.read r j' = .error e :=
    fails (readable j member) (readable' j' (by simp)) (plain.items items j member) readItem
  have list : item.codec.list.read r (.array (before ++ j' :: after)) = .error e := by
    refine Codec.list_read_eq_error (fun i front => ?_) readItem'
    exact exists_of_forall₂ reads (List.mem_append_left _ front)
  cases w
  case list => cases items; exact list
  case overwrites => cases items; exact map_eq_error.mpr list
  all_goals cases items

theorem Within.fails {key : String} {w : Form} {j j' : Json} (h : Within (Doubles key) w j j') :
    w.Fails (.duplicateField key) j j' := by
  induction h with
  | here changed =>
    cases changed with
    | @copy before after t j known present readable value =>
      -- Too many values are an error whatever they are.
      refine PartFails.fails_object ⟨known, present, ?_, .inl ⟨?_, rfl⟩⟩ (by simp)
      · intro other ne
        rw [Object.values_insert_of_ne ne]
      · have length := List.length_pos_of_ne_nil present
        rw [Object.values_append, List.length_append] at length
        rw [Object.values_insert, List.length_append, List.length_cons]
        omega
  | @member w before after other t j j' known inner ih =>
    refine PartFails.fails_object ⟨known, ?_, ?_, .inr fun i one => ?_⟩ (by simp)
    · simp [Object.values_insert]
    · intro key ne
      rw [Object.values_insert_of_ne ne, Object.values_insert_of_ne ne]
    · obtain ⟨front, rfl, back⟩ : Object.values before other = [] ∧ j = i ∧
          Object.values after other = [] := by
        simpa [Object.values_insert, List.append_eq_singleton_iff] using one
      refine ⟨j', by simp [Object.values_insert, front, back], ?_, ?_⟩
      · exact FieldType.fails_of_form inner.ne_null.1 inner.ne_null.2 ih
      · rintro o rfl
        cases inner <;> exact ⟨_, rfl⟩
  | item items inner ih => exact fails_list items ih

/--
A readable document that stands for a value, with structures as objects and names as strings, stands
for the same value when the keys of any of its objects are put in another order and when keys
without a meaning come in, any number of times. When a key with a meaning comes in once more, the
document stands for nothing, and that key is named as the reason.
-/
theorem decode_of_changed (w : Form) {j : Json} (readable : j.isReadable) (plain : w.Plain j)
    {v : w.Value} (ok : w.codec.decode j = .ok v) :
    (∀ j', Relation.ReflTransGen (Within Rearranges w) j j' → w.codec.decode j' = .ok v) ∧
    ∀ key j', Within (Doubles key) w j j' → w.codec.decode j' = .error (.duplicateField key) := by
  constructor
  · intro j' changes
    exact (keeps_of_rearranged readable plain changes ok).2.2
  · intro key j' doubled
    have readable' := doubled.readable (fun _ _ _ changed => changed.readable) readable
    exact doubled.fails readable readable' plain ok

theorem plain_of_payload {d : Dispatch} {po : Object} (payload : d.form.Plain (.object po)) :
    event.Plain (.object [("t", .string d.name), ("d", .object po)]) := by
  refine .object rfl fun key j t given known value => ?_
  rw [parts_event (d := d) rfl] at known
  simp only [List.mem_cons, List.not_mem_nil, or_false, Prod.mk.injEq] at known given
  rcases known with ⟨rfl, rfl⟩ | ⟨rfl, rfl⟩
  · obtain rfl : j = .string d.name := by simpa using given
    exact .name rfl
  · obtain rfl : j = .object po := by simpa using given
    exact payload

/-- The payload may come before the dispatch, and no key of it twice. -/
theorem decode_of_changed_webhooksUpdate :
    event.codec.decode (.object [("d", .object [("guild_id", .ofInt 1), ("channel_id", .ofInt 2)]),
      ("t", .string "WEBHOOKS_UPDATE")]) = .ok (.webhooksUpdate ⟨1, 2⟩) ∧
    event.codec.decode (.object [("t", .string "WEBHOOKS_UPDATE"),
      ("d", .object [("guild_id", .ofInt 1), ("guild_id", .ofInt 3), ("channel_id", .ofInt 2)])]) =
        .error (.duplicateField "guild_id") := by
  let payload : Object := [("guild_id", .ofInt 1), ("channel_id", .ofInt 2)]
  let o : Object := [("t", .string "WEBHOOKS_UPDATE"), ("d", .object payload)]
  have parts : event.parts o = [("t", .plain .dispatch), ("d", .plain (.record .webhooksChange))] :=
    parts_event (d := .webhooksUpdate) rfl
  have plainPayload : (record .webhooksChange).Plain (.object payload) := by
    refine .object rfl fun key j t given known value => .scalar ?_ ?_
    all_goals
      change (key, t) ∈ [("guild_id", .plain .word64), ("channel_id", .plain .word64)] at known
      simp only [List.mem_cons, List.not_mem_nil, or_false, Prod.mk.injEq] at known
      rcases known with ⟨-, rfl⟩ | ⟨-, rfl⟩ <;> rfl
  have plain : event.Plain (.object o) := plain_of_payload (d := .webhooksUpdate) plainPayload
  obtain ⟨same, twice⟩ := decode_of_changed event (j := .object o) rfl plain
    (v := .webhooksUpdate ⟨1, 2⟩) rfl
  constructor
  · exact same _ (.single (.here (.reorder (.swap _ _ _))))
  · have doubled : Doubles "guild_id" (record .webhooksChange)
        ([("guild_id", .ofInt 1)] ++ [("channel_id", .ofInt 2)])
        ([("guild_id", .ofInt 1)] ++ ("guild_id", .ofInt 3) :: [("channel_id", .ofInt 2)]) :=
      .copy (t := .plain .word64) List.mem_cons_self (by simp [Object.values]) rfl
        (.inl ⟨3, rfl⟩)
    have known : ("d", .plain (record .webhooksChange)) ∈ event.parts
        ([("t", .string "WEBHOOKS_UPDATE")] ++ ("d", .object payload) :: []) :=
      parts ▸ List.mem_cons_of_mem _ List.mem_cons_self
    exact twice "guild_id" _ (.member known (.here doubled))

/--
A number beyond the doubles is passed over under a key without a meaning, but not in a payload that
comes before the dispatch, because that one is held.
-/
theorem decode_reordered_unreadable :
    let text := "\x7b\"t\":\"GUILD_DELETE\",\"d\":\x7b\"id\":4,\"x\":1e999\x7d\x7d"
    let text' := "\x7b\"d\":\x7b\"id\":4,\"x\":1e999\x7d,\"t\":\"GUILD_DELETE\"\x7d"
    let name : String × Json := ("t", .string "GUILD_DELETE")
    let payload : String × Json := ("d", .object [("id", .ofInt 4), ("x", .unreadable)])
    event.Plain (.object [name, payload]) ∧
    Within Rearranges event (.object [name, payload]) (.object [payload, name]) ∧
    event.codec.decode (.object [name, payload]) = .ok (.guildDelete ⟨4, false, none⟩) ∧
    event.codec.decode (.object [payload, name]) = .error .malformed ∧
    Event.codec.decodeText text = .ok (.guildDelete ⟨4, false, none⟩) ∧
    Event.codec.decodeText text' = .error .malformed := by
  intro text text' name payload
  have plainPayload : (record .guildRemoval).Plain payload.2 := by
    refine .object rfl fun key j t given known value => ?_
    simp only [List.mem_cons, List.not_mem_nil, or_false, Prod.mk.injEq] at given
    rcases given with ⟨rfl, -⟩ | ⟨rfl, -⟩
    · have word : ("id", .plain .word64) ∈ (Schema.record .guildRemoval).parts :=
        List.mem_cons_self
      cases parts_unique known word
      exact .scalar rfl rfl
    · have unknown : "x" ∉ (Schema.record .guildRemoval).keys := by decide
      obtain ⟨f, member, same⟩ := List.mem_map.mp known
      exact absurd (List.mem_map.mpr ⟨f, member, congrArg Prod.fst same⟩) unknown
  refine ⟨plain_of_payload (d := .guildDelete) plainPayload, .here (.reorder (.swap _ _ _)), rfl,
    rfl, ?_, ?_⟩
  · decide +kernel
  · decide +kernel

end Form

end GatewayCache
