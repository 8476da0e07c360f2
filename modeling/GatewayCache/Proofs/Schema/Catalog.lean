import GatewayCache.Proofs.Schema.Payloads

/-!
Objects and the schemas that they follow. Forms refer to each other by the tables of their schemas,
and never back, so that a statement about all forms follows by induction along the tables.
-/
namespace GatewayCache

open Json (Object)

/-! ### Induction along the tables -/

namespace Form

/-- Whether a form has no parts that have forms of their own. -/
def isScalar : Form → Bool
  | list _ | overwrites | record _ | channel | channelChange | event => false
  | _ => true

/-- Whether the documents of a form are objects with a table. -/
def isObject : Form → Bool
  | record _ | channel | channelChange => true
  | _ => false

/-- How deep the parts of a form may lie. -/
def rank : Form → Nat
  | list item => item.rank + 1
  | overwrites => 3
  | record (.entity .overwrite) | record (.entity .threadMetadata) | record (.entity .user) => 1
  | record (.entity _) => 4
  | channel => 5
  | channelChange | record .arrival | record (.change _) => 7
  | record _ => 9
  | event => 10
  | _ => 0

end Form

/-- What stands under the keys of a schema lies less deep. -/
theorem Schema.rank_slot (s : Schema) : ∀ f ∈ s.slots, f.type.form.rank < s.form.rank := by
  cases s
  case record s =>
    cases s
    case entity e => cases e <;> decide
    case change t => cases t <;> decide
    all_goals decide
  case channel k => cases k <;> decide
  case channelChange k => cases k <;> decide

/-- What holds of a form when it holds of the forms of its parts holds of every form. -/
theorem Form.induction {P : Form → Prop} (scalar : ∀ w, w.isScalar → P w)
    (list : ∀ item, P item → P (.list item))
    (overwrites : P (.list (.entity .overwrite)) → P .overwrites)
    (object : ∀ w, w.isObject → (∀ s : Schema, s.form = w → ∀ f ∈ s.slots, P f.type.form) → P w)
    (event : (∀ d : Dispatch, P d.form) → P .event) (w : Form) : P w := by
  -- By induction on a bound of the rank, because a table may skip several ranks at once.
  have of_lt (n : Nat) : ∀ w : Form, w.rank < n → P w := by
    induction n with
    | zero => intro w none; omega
    | succ n ih =>
      have parts (w : Form) (s : Schema) (same : s.form = w) (small : w.rank < n + 1) :
          ∀ f ∈ s.slots, P f.type.form := by
        intro f member
        have := s.rank_slot f member
        exact ih f.type.form (by rw [same] at this; omega)
      intro w small
      cases w
      case list item => exact list item (ih item (by simp only [rank] at small; omega))
      case overwrites => exact overwrites (ih _ (by simp only [rank] at small ⊢; omega))
      case record s => exact object _ rfl fun t same => parts _ t same small
      case channel => exact object _ rfl fun t same => parts _ t same small
      case channelChange => exact object _ rfl fun t same => parts _ t same small
      case event =>
        refine event fun d => ih _ ?_
        have : d.form.rank < 10 := by cases d <;> decide
        simp only [rank] at small
        omega
      all_goals exact scalar _ rfl
  exact of_lt (w.rank + 1) w (Nat.lt_succ_self _)

/-! ### The schema of an object -/

/-- The member of an enumeration that an object names under a key, if it names one as a string. -/
def Json.Object.named? {α : Type} (o : Object) (key : String) (members : List α)
    (name : α → String) : Option α :=
  match o.values key with
  | [.string s] => (Codec.member members name s).toOption
  | _ => none

theorem Json.Object.named?_eq_some {α : Type} {o : Object} {key : String} {members : List α}
    {name : α → String} {a : α} (distinct : (members.map name).Nodup) (h : a ∈ members) :
    o.named? key members name = some a ↔ o.values key = [.string (name a)] := by
  unfold named?
  split
  next s one =>
    rw [one, List.cons.injEq, Json.string.injEq, ← Codec.member_eq_ok distinct h]
    cases Codec.member members name s <;> simp [Except.toOption]
  next other =>
    simp only [reduceCtorEq, false_iff]
    exact other (name a)

/-- The kind that an object names, by its name or by its place among the kinds. -/
def Channel.kind? (o : Object) : Option ChannelKind := (tag.read .held o).toOption

theorem Channel.kind?_of_tag {r : Reading} {o : Object} {k : ChannelKind}
    (h : tag.read r o = .ok k) : kind? o = some k := by
  rw [kind?, tag_read_held h]
  rfl

/-- The schema of an object of the given form. -/
def Form.schema? : Form → Object → Option Schema
  | .record s, _ => some (.record s)
  | .channel, o => (Channel.kind? o).map .channel
  | .channelChange, o => (Channel.kind? o).map .channelChange
  | _, _ => none

namespace Schema

variable {s : Schema} {r : Reading} {o : Object}

theorem read_object (readable : Slot.Spreads s.slots → (Json.object o).isReadable) :
    s.form.codec.read r (.object o) = s.layout.read r o := by
  cases s
  case channel k =>
    exact Codec.whole_read _ (readable (Describes.spreads_kind k.described)) r
  all_goals rfl

/-- A value is read from an object when every slot reads its part. -/
theorem read_eq_ok (readable : Slot.Spreads s.slots → (Json.object o).isReadable) {v : s.Value} :
    s.form.codec.read r (.object o) = .ok (s.make v) ↔
      ∀ f ∈ s.slots, f.read r o = .ok (f.get v) := by
  rw [read_object readable, s.described.read_eq_ok readable]

end Schema

/-- A channel is of the kind that its object names. -/
theorem Channel.exists_content {r : Reading} {o : Object} {c : Channel}
    (h : Channel.layout.read r o = .ok c) : ∃ k v, kind? o = some k ∧ c = k.make v := by
  rw [layout_read, bind_eq_ok] at h
  obtain ⟨k, named, h⟩ := h
  obtain ⟨v, -, made⟩ := map_eq_ok.mp h
  exact ⟨k, v, kind?_of_tag named, made.symm⟩

/-- What is read from an object is a value of the schema that the object has. -/
theorem Form.exists_content {w : Form} (object : w.isObject) {r : Reading} {o : Object}
    (readable : (Json.object o).isReadable) {v : w.Value} (h : w.codec.read r (.object o) = .ok v) :
    ∃ s, w.schema? o = some s ∧ ∃ (same : s.form = w) (c : s.Value), v = same ▸ s.make c := by
  cases w
  case record s => exact ⟨.record s, rfl, rfl, v, rfl⟩
  case channel =>
    have read : Channel.layout.read r o = .ok v := (Codec.whole_read _ readable r).symm.trans h
    obtain ⟨k, c, named, rfl⟩ := Channel.exists_content read
    exact ⟨.channel k, by simp [schema?, named], rfl, c, rfl⟩
  case channelChange =>
    obtain ⟨⟨c, old⟩, read, rfl⟩ := map_eq_ok.mp h
    obtain ⟨k, c, named, rfl⟩ :=
      Channel.exists_content ((Layout.beside_read_eq_ok readable).mp read).1
    exact ⟨.channelChange k, by simp [schema?, named], rfl, (c, old), rfl⟩
  all_goals cases object

end GatewayCache
