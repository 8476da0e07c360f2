import GatewayCache.Proofs.Schema.Slot
import Mathlib.Data.List.Nodup

/-!
What a table tells of the layout that it describes: when the layout is read, what is read, which
error stands for the errors of the slots, and what is written. Where a part is spread over the
object, the object has to be readable throughout, because the part is read from what is held.
-/
namespace GatewayCache

open Json (Object)

/-! ### Results that are built from others -/

section
variable {ε α β : Type} {x : Except ε α}

theorem bind_eq_ok {f : α → Except ε β} {b : β} :
    x.bind f = .ok b ↔ ∃ a, x = .ok a ∧ f a = .ok b := by
  cases x <;> simp [Except.bind]

theorem map_eq_ok {f : α → β} {b : β} : x.map f = .ok b ↔ ∃ a, x = .ok a ∧ f a = b := by
  cases x <;> simp [Except.map]

theorem map_eq_error {f : α → β} {e : ε} : x.map f = .error e ↔ x = .error e := by
  cases x <;> simp [Except.map]

end

namespace Field

variable {α : Type} {f : Field α} {r : Reading} {o : Object} {a : α} {e : DecodeError}

theorem read_eq_ok : f.read r o = .ok a ↔
    (o.values f.key = [] ∧ f.absent = some a) ∨
      ∃ j, o.values f.key = [j] ∧ f.codec.read r j = .ok a := by
  unfold read
  split
  next none => cases absent : f.absent <;> simp [none]
  next j one => simp [one]
  next other several =>
    constructor
    · intro h
      cases h
    · rintro (⟨none, -⟩ | ⟨j, one, -⟩)
      · exact absurd none other
      · exact absurd one (several j)

theorem read_eq_error : f.read r o = .error e ↔
    (o.values f.key = [] ∧ f.absent = none ∧ e = .missingField f.key) ∨
      (∃ j, o.values f.key = [j] ∧ f.codec.read r j = .error e) ∨
      (1 < (o.values f.key).length ∧ e = .duplicateField f.key) := by
  unfold read
  split
  next none => cases absent : f.absent <;> simp [none, eq_comm]
  next j one => simp [one]
  next other several =>
    have more : 1 < (o.values f.key).length := by
      match values : o.values f.key with
      | [] => exact absurd values other
      | [j] => exact absurd values (several j)
      | _ :: _ :: _ => simp
    simp only [Except.error.injEq, more, true_and]
    constructor
    · rintro rfl
      exact .inr (.inr rfl)
    · rintro (⟨none, -⟩ | ⟨j, one, -⟩ | rfl)
      · exact absurd none other
      · exact absurd one (several j)
      · rfl

/-- An item stands for the key, or what an absent key means where no item is left. -/
theorem readItem_eq_ok {items behind : List Json} : f.readItem r items = .ok (a, behind) ↔
    (items = [] ∧ behind = [] ∧ f.absent = some a) ∨
      ∃ j, items = j :: behind ∧ f.codec.read r j = .ok a := by
  cases items with
  | nil => cases absent : f.absent <;> simp [readItem, absent, and_comm, eq_comm]
  | cons j items =>
    cases read : f.codec.read r j with
    | error cause => simp [readItem, read, Except.map]
    | ok b => simp [readItem, read, Except.map, and_comm]

end Field

namespace Layout

variable {α β : Type} {first : Layout α} {second : Layout β} {r : Reading} {o : Object}
variable {a : α} {b : β} {e : DecodeError}

theorem and_read_eq_ok :
    (first.and second).read r o = .ok (a, b) ↔
      first.read r o = .ok a ∧ second.read r o = .ok b := by
  cases x : first.read r o <;> cases y : second.read r o <;>
    simp [Layout.and, x, y, bind, Except.bind]

theorem and_readItems_eq_ok {items behind : List Json} :
    (first.and second).readItems r items = .ok ((a, b), behind) ↔ ∃ between,
      first.readItems r items = .ok (a, between) ∧
        second.readItems r between = .ok (b, behind) := by
  constructor
  · intro read
    obtain ⟨⟨a', between⟩, head, read⟩ := bind_eq_ok.mp read
    obtain ⟨⟨b', behind'⟩, tail, read⟩ := bind_eq_ok.mp read
    cases read
    exact ⟨between, head, tail⟩
  · rintro ⟨between, head, tail⟩
    exact bind_eq_ok.mpr ⟨_, head, bind_eq_ok.mpr ⟨_, tail, rfl⟩⟩

theorem readArray_eq_ok {layout : Layout α} {items : List Json} :
    layout.readArray r items = .ok a ↔ layout.readItems r items = .ok (a, []) := by
  constructor
  · intro read
    obtain ⟨⟨a', behind⟩, read, last⟩ := bind_eq_ok.mp read
    cases behind <;> cases last
    exact read
  · intro read
    exact bind_eq_ok.mpr ⟨_, read, rfl⟩

/-- A layout fails when its first part fails, or its second part after the first. -/
theorem and_read_eq_error (h : first.read r o = .error e ∨
    (∃ a, first.read r o = .ok a) ∧ second.read r o = .error e) :
    (first.and second).read r o = .error e := by
  rcases h with h | ⟨⟨a, h⟩, h'⟩
  · simp [Layout.and, h, bind, Except.bind]
  · simp [Layout.and, h, h', bind, Except.bind]

/-- Of a readable object, both parts are read: first the keys beside, then those that are spread. -/
theorem beside_read (readable : (Json.object o).isReadable) :
    (first.beside second).read r o =
      (second.read r o).bind fun b => (first.read .held o).map fun a => (a, b) := by
  have others : (o.filter fun m => !second.keys.contains m.1).all (·.2.isReadable) := by
    refine List.all_eq_true.mpr fun m h => ?_
    exact Json.readable_object.mp readable m (List.mem_filter.mp h).1
  simp only [beside, others, if_true]
  cases second.read r o <;> cases first.read .held o <;> rfl

theorem beside_read_eq_ok (readable : (Json.object o).isReadable) :
    (first.beside second).read r o = .ok (a, b) ↔
      first.read .held o = .ok a ∧ second.read r o = .ok b := by
  rw [beside_read readable, bind_eq_ok]
  constructor
  · rintro ⟨b', h', h⟩
    obtain ⟨a', read, equal⟩ := map_eq_ok.mp h
    cases equal
    exact ⟨read, h'⟩
  · rintro ⟨h, h'⟩
    exact ⟨b, h', by rw [h]; rfl⟩

/-- Here the keys beside come first. -/
theorem beside_read_eq_error (readable : (Json.object o).isReadable)
    (h : second.read r o = .error e ∨
      (∃ b, second.read r o = .ok b) ∧ first.read .held o = .error e) :
    (first.beside second).read r o = .error e := by
  rw [beside_read readable]
  rcases h with h | ⟨⟨b, h⟩, h'⟩
  · rw [h]; rfl
  · rw [h, h']; rfl

end Layout

namespace Slot

variable {σ τ : Type} {f : Slot σ} {slots : List (Slot σ)} {r : Reading} {o : Object} {v : σ}

theorem field_read (own : f.spread = false) : f.field.read r o = f.read r o := by
  simp [read, reading, own]

theorem reading_held : f.reading .held = .held := by
  cases h : f.spread <;> simp [reading, h]

/-- What is spread is read from an object that is held. -/
theorem inPart_read (part : τ → σ) (r : Reading) :
    (f.inPart part).read r o = f.read .held o := by
  simp only [read, reading_held]
  rfl

theorem forall_mem_ofPart {part : τ → σ} {P : Slot τ → Prop} :
    (∀ f ∈ ofPart part slots, P f) ↔ ∀ f ∈ slots, P (f.inPart part) :=
  List.forall_mem_map

theorem inPart_succeeds {part : τ → σ} : (f.inPart part).Succeeds r o ↔ f.Succeeds .held o := by
  simp only [Succeeds, inPart_read]
  rfl

end Slot

/-! ### The kind of a channel -/

namespace Channel

theorem readKind_eq (k : ChannelKind) (j : Json) :
    readKind k j = (k.layout.codec.read .held j).map k.make := by
  cases k <;> rfl

theorem layout_read (r : Reading) (o : Object) :
    layout.read r o = (tag.read r o).bind fun k => (k.layout.read .held o).map k.make := by
  simp only [layout, readKind_eq]
  rfl

end Channel

/-- Reading a document that is readable throughout. -/
theorem Codec.whole_read {α : Type} (codec : Codec α) {j : Json} (readable : j.isReadable)
    (r : Reading) : codec.whole.read r j = codec.read r j := if_pos readable

theorem Layout.alone_read {α : Type} (layout : Layout α) {o : Object}
    (readable : (Json.object o).isReadable) (r : Reading) :
    layout.alone.read r o = layout.read .held o :=
  if_pos (List.all_eq_true.mpr (Json.readable_object.mp readable))

/-! ### Names -/

namespace Codec

variable {α : Type} {members : List α} {name : α → String} {s : String} {a : α}

theorem eq_name_of_member (h : member members name s = .ok a) : s = name a := by
  unfold member at h
  split at h
  next b found =>
    cases h
    have same : name a = s := by simpa using List.find?_some found
    exact same.symm
  next => cases h

theorem member_name (distinct : (members.map name).Nodup) (h : a ∈ members) :
    member members name (name a) = .ok a := by
  unfold member
  split
  next b found =>
    have same : name b = name a := by simpa using List.find?_some found
    rw [List.inj_on_of_nodup_map distinct (List.mem_of_find?_eq_some found) h same]
  next none =>
    have := List.find?_eq_none.mp none a h
    simp at this

/-- A name has the same meaning in what is held, where it may also be a place. -/
theorem tag_read_held {r : Reading} {j : Json} (h : (tag members name).read r j = .ok a) :
    (tag members name).read .held j = .ok a := by
  cases r
  case held => exact h
  case direct =>
    cases j
    case string s => exact h
    all_goals cases h

theorem member_eq_ok (distinct : (members.map name).Nodup) (h : a ∈ members) :
    member members name s = .ok a ↔ s = name a := by
  constructor
  · exact eq_name_of_member
  · rintro rfl
    exact member_name distinct h

end Codec

namespace ChannelKind

theorem mem_all (k : ChannelKind) : k ∈ all := by
  cases k <;> decide

theorem nodup_names : (all.map name).Nodup := by
  decide

theorem codec_read_name (k : ChannelKind) (r : Reading) : codec.read r (.string k.name) = .ok k :=
  Codec.member_name nodup_names k.mem_all

theorem nameCodec_read_eq_ok {k : ChannelKind} {r : Reading} {j : Json} {u : Unit} :
    k.nameCodec.read r j = .ok u ↔ codec.read r j = .ok k := by
  cases read : codec.read r j with
  | error e => simp [nameCodec, read]
  | ok found => by_cases same : found = k <;> simp [nameCodec, read, same]

theorem eq_invalid_of_nameCodec {k : ChannelKind} {r : Reading} {j : Json} {e : DecodeError}
    (h : k.nameCodec.read r j = .error e) : e = .invalid := by
  simp only [nameCodec] at h
  split at h
  · split at h <;> cases h
    rfl
  · cases h
    rfl

end ChannelKind

namespace Channel

variable {σ : Type} {r : Reading} {o : Object} {k : ChannelKind}

theorem kindSlot_read_eq_ok {u : Unit} :
    (Slot.kind k : Slot σ).read r o = .ok u ↔ tag.read r o = .ok k := by
  refine Field.read_eq_ok.trans (Iff.trans ?_ Field.read_eq_ok.symm)
  change (o.values "type" = [] ∧ none = some u) ∨
    (∃ j, o.values "type" = [j] ∧ k.nameCodec.read _ j = .ok u) ↔
    (o.values "type" = [] ∧ none = some k) ∨
      ∃ j, o.values "type" = [j] ∧ ChannelKind.codec.read _ j = .ok k
  simp only [ChannelKind.nameCodec_read_eq_ok, reduceCtorEq, and_false]
  rfl

theorem tag_read_held (h : tag.read r o = .ok k) : tag.read .held o = .ok k := by
  refine Field.read_eq_ok.mpr ((Field.read_eq_ok.mp h).imp_right ?_)
  rintro ⟨j, one, read⟩
  exact ⟨j, one, Codec.tag_read_held read⟩

theorem readItems_held {items : List Json} {c : Channel} (h : readItems r items = .ok c) :
    readItems .held items = .ok c := by
  cases items with
  | nil => cases h
  | cons name items =>
    obtain ⟨k, named, read⟩ := bind_eq_ok.mp h
    exact bind_eq_ok.mpr ⟨k, Codec.tag_read_held named, read⟩

/-- An error of the kind's slot is one of the tag, unless the slot only finds another kind. -/
theorem tag_read_eq_error {e : DecodeError} (valid : e ≠ .invalid)
    (h : (Slot.kind k : Slot σ).read r o = .error e) : tag.read r o = .error e := by
  refine Field.read_eq_error.mpr ?_
  rcases Field.read_eq_error.mp h with ⟨none, -, missing⟩ | ⟨j, -, h⟩ | ⟨several, again⟩
  · exact .inl ⟨none, rfl, missing⟩
  · exact absurd (ChannelKind.eq_invalid_of_nameCodec h) valid
  · exact .inr (.inr ⟨several, again⟩)

end Channel

/-! ### What follows from a table -/

namespace Describes

variable {σ α : Type} {slots : List (Slot σ)} {proj : σ → α} {layout : Layout α}
variable {r : Reading} {o : Object}

theorem exists_mem (h : Describes slots proj layout) : ∃ f, f ∈ slots := by
  induction h with
  | last f => exact ⟨f, List.mem_cons_self⟩
  | cons => exact ⟨_, List.mem_cons_self⟩
  | beside part first second optional ih =>
    obtain ⟨f, member⟩ := ih
    exact ⟨f.inPart part, List.mem_append_left _ (List.mem_map_of_mem member)⟩
  | as inner _ _ ih => exact ih
  | kind => exact ⟨_, List.mem_cons_self⟩

theorem spreads_beside {τ : Type} (h : Describes slots proj layout) (part : τ → σ)
    (others : List (Slot τ)) : Slot.Spreads (Slot.ofPart part slots ++ others) := by
  obtain ⟨f, member⟩ := h.exists_mem
  exact ⟨f.inPart part, List.mem_append_left _ (List.mem_map_of_mem member), rfl⟩

theorem spreads_kind {k : ChannelKind} {slots : List (Slot k.Content)}
    (h : Describes slots (fun v => v) k.layout) :
    Slot.Spreads (.kind k :: Slot.ofPart (fun v => v) slots) := by
  obtain ⟨f, member⟩ := h.exists_mem
  exact ⟨f.inPart _, List.mem_cons_of_mem _ (List.mem_map_of_mem member), rfl⟩

theorem spreads_cons {f : Slot σ} (h : Slot.Spreads slots) : Slot.Spreads (f :: slots) := by
  obtain ⟨g, member, spread⟩ := h
  exact ⟨g, List.mem_cons_of_mem _ member, spread⟩

/-- A value is read from an object when every slot reads its part of the value. -/
theorem read_eq_ok (h : Describes slots proj layout)
    (readable : Slot.Spreads slots → (Json.object o).isReadable) {v : σ} :
    layout.read r o = .ok (proj v) ↔ ∀ f ∈ slots, f.read r o = .ok (f.get v) := by
  induction h generalizing r with
  | last f own =>
    rw [List.forall_mem_singleton, ← Slot.field_read own]
    rfl
  | @cons σ β f slots proj rest others own ih =>
    rw [Layout.and_read_eq_ok, List.forall_mem_cons,
      ih fun spreads => readable (spreads_cons spreads), ← Slot.field_read own]
    rfl
  | beside part first second _ ih ih' =>
    have readable := readable (first.spreads_beside part _)
    rw [Layout.beside_read_eq_ok readable, List.forall_mem_append, Slot.forall_mem_ofPart,
      ih fun _ => readable, ih' fun _ => readable]
    simp only [Slot.inPart_read]
    rfl
  | @as σ α β slots layout make split proj inner split_make make_split ih =>
    rw [← ih readable, Layout.as, map_eq_ok]
    -- `make` and `split` are inverse, so it does not matter on which side of `make` the value is.
    constructor
    · rintro ⟨a, read, made⟩
      change layout.read r o = .ok (split (proj v))
      rw [read, ← made, split_make]
    · intro read
      exact ⟨split (proj v), read, make_split (proj v)⟩
  | @kind k slots inner ih =>
    have readable := readable inner.spreads_kind
    rw [Channel.layout_read, bind_eq_ok, List.forall_mem_cons, Slot.forall_mem_ofPart]
    simp only [Slot.inPart_read]
    change _ ↔ _ ∧ ∀ f ∈ slots, f.read .held o = .ok (f.get v)
    rw [← ih fun _ => readable]
    constructor
    -- A channel of kind `k` has no other tag, and its content determines it.
    · rintro ⟨k', named, mapped⟩
      obtain ⟨c, read, made⟩ := map_eq_ok.mp mapped
      obtain rfl : k' = k := by simpa using congrArg Channel.kind made
      obtain rfl : c = v := k'.make_inj made
      exact ⟨Channel.kindSlot_read_eq_ok.mpr named, read⟩
    · rintro ⟨named, read⟩
      exact ⟨k, Channel.kindSlot_read_eq_ok.mp named, map_eq_ok.mpr ⟨v, read, rfl⟩⟩

/-- When every slot reads something, so does the layout. -/
theorem read_total (h : Describes slots proj layout)
    (readable : Slot.Spreads slots → (Json.object o).isReadable)
    (all : ∀ f ∈ slots, f.Succeeds r o) : ∃ a, layout.read r o = .ok a := by
  induction h generalizing r with
  | last f own =>
    obtain ⟨a, read⟩ := List.forall_mem_singleton.mp all
    exact ⟨a, (Slot.field_read own).trans read⟩
  | cons others own ih =>
    rw [List.forall_mem_cons] at all
    obtain ⟨a, head⟩ := all.1
    obtain ⟨b, tail⟩ := ih (fun spreads => readable (spreads_cons spreads)) all.2
    exact ⟨(a, b), Layout.and_read_eq_ok.mpr ⟨(Slot.field_read own).trans head, tail⟩⟩
  | beside part first second _ ih ih' =>
    have readable := readable (first.spreads_beside part _)
    simp only [List.forall_mem_append, Slot.forall_mem_ofPart, Slot.inPart_succeeds] at all
    obtain ⟨a, spread⟩ := ih (fun _ => readable) all.1
    obtain ⟨b, own⟩ := ih' (fun _ => readable) all.2
    exact ⟨(a, b), (Layout.beside_read_eq_ok readable).mpr ⟨spread, own⟩⟩
  | @as _ _ _ _ _ make _ _ inner _ _ ih =>
    obtain ⟨a, read⟩ := ih readable all
    exact ⟨make a, map_eq_ok.mpr ⟨a, read, rfl⟩⟩
  | @kind k slots inner ih =>
    have readable := readable inner.spreads_kind
    simp only [List.forall_mem_cons, Slot.forall_mem_ofPart, Slot.inPart_succeeds] at all
    obtain ⟨u, named⟩ := all.1
    obtain ⟨c, read⟩ := ih (fun _ => readable) all.2
    refine ⟨k.make c, ?_⟩
    rw [Channel.layout_read, Channel.kindSlot_read_eq_ok.mp named]
    exact map_eq_ok.mpr ⟨c, read, rfl⟩

/--
An error that some slots give while all others read something is the error of the layout. A name of
another kind than expected is not, because such a channel is read as one of that kind.
-/
theorem read_eq_error (h : Describes slots proj layout) (readable : (Json.object o).isReadable)
    {e : DecodeError} (valid : e ≠ .invalid)
    (each : ∀ f ∈ slots, f.Succeeds r o ∨ f.read r o = .error e)
    (some_fails : ∃ f ∈ slots, f.read r o = .error e) : layout.read r o = .error e := by
  induction h generalizing r with
  | last f own =>
    obtain ⟨g, member, fails⟩ := some_fails
    rw [List.mem_singleton.mp member] at fails
    exact (Slot.field_read own).trans fails
  | @cons σ β f slots proj rest others own ih =>
    rw [List.forall_mem_cons] at each
    refine Layout.and_read_eq_error ?_
    rcases each.1 with ⟨a, read⟩ | fails
    · refine .inr ⟨⟨a, (Slot.field_read own).trans read⟩, ih each.2 ?_⟩
      obtain ⟨g, member, fails⟩ := some_fails
      rcases List.mem_cons.mp member with rfl | member
      · rw [read] at fails
        cases fails
      · exact ⟨g, member, fails⟩
    · exact .inl ((Slot.field_read own).trans fails)
  | @beside σ τ α β shared proj spread slots proj' rest part first second optional ih ih' =>
    rw [List.forall_mem_append, Slot.forall_mem_ofPart] at each
    refine Layout.beside_read_eq_error readable ?_
    -- The keys beside are read before those that are spread, although the table has them last.
    by_cases own : ∃ f ∈ slots, f.read r o = .error e
    · exact .inl (ih' each.2 own)
    · have succeed : ∀ f ∈ slots, f.Succeeds r o := fun f member =>
        (each.2 f member).resolve_right fun fails => own ⟨f, member, fails⟩
      refine .inr ⟨second.read_total (fun _ => readable) succeed, ih ?_ ?_⟩
      · intro f member
        exact (each.1 f member).imp Slot.inPart_succeeds.mp fun fails =>
          (Slot.inPart_read part r).symm.trans fails
      · obtain ⟨g, member, fails⟩ := some_fails
        rcases List.mem_append.mp member with member | member
        · obtain ⟨f, shared_f, rfl⟩ := List.mem_map.mp member
          exact ⟨f, shared_f, (Slot.inPart_read part r).symm.trans fails⟩
        · exact absurd ⟨g, member, fails⟩ own
  | as inner _ _ ih => exact map_eq_error.mpr (ih each some_fails)
  | @kind k slots inner ih =>
    rw [List.forall_mem_cons, Slot.forall_mem_ofPart] at each
    rw [Channel.layout_read]
    rcases each.1 with ⟨u, named⟩ | fails
    · rw [Channel.kindSlot_read_eq_ok.mp named]
      refine map_eq_error.mpr (ih ?_ ?_)
      · intro f member
        exact (each.2 f member).imp Slot.inPart_succeeds.mp fun fails =>
          (Slot.inPart_read (fun v => v) r).symm.trans fails
      · obtain ⟨g, member, fails⟩ := some_fails
        rcases List.mem_cons.mp member with rfl | member
        · rw [named] at fails
          cases fails
        · obtain ⟨f, inner_f, rfl⟩ := List.mem_map.mp member
          exact ⟨f, inner_f, (Slot.inPart_read (fun v => v) r).symm.trans fails⟩
    · rw [Channel.tag_read_eq_error valid fails]
      rfl

/-- A value is written slot by slot. -/
theorem write_eq (h : Describes slots proj layout) (v : σ) :
    layout.write (proj v) = slots.flatMap (·.write v) := by
  induction h with
  | last f own => simp [Layout.field, Slot.write]
  | cons others own ih =>
    rw [List.flatMap_cons, ← ih]
    rfl
  | beside part first second _ ih ih' =>
    rw [List.flatMap_append, ← ih', Slot.ofPart, List.flatMap_map]
    exact congrArg (· ++ _) (ih (part v))
  | as inner _ _ ih => exact ih v
  | @kind k slots inner ih =>
    rw [List.flatMap_cons, Slot.ofPart, List.flatMap_map]
    refine Eq.trans ?_ (congrArg ((Slot.kind k).write v ++ ·) (ih v))
    cases k <;> rfl

end Describes

end GatewayCache
