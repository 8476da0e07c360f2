import GatewayCache.Proofs.Schema.Form

/-!
Tables of keys. A slot is one row: a key, the type of its values, what stands for an absent key,
when the key is left out, and where the value goes. A table describes a layout when reading the
layout is reading every slot, and writing it is writing every slot in order.
-/
namespace GatewayCache

open Json (Object)

/-- What may stand under a key: a form, or else `null`. -/
inductive FieldType where
  | plain (form : Form)
  | option (form : Form)

namespace FieldType

def form : FieldType → Form
  | plain form | option form => form

@[reducible] def Value : FieldType → Type
  | plain form => form.Value
  | option form => Option form.Value

def codec : (t : FieldType) → Codec t.Value
  | plain form => form.codec
  | option form => form.codec.nullable

end FieldType

/-- One key of the objects that stand for values of `σ`. -/
structure Slot (σ : Type) where
  key : String
  type : FieldType
  /-- What an absent key means; without a meaning the key is required. -/
  absent : Option type.Value
  /-- Whether the key is left out for a value. -/
  omits : type.Value → Bool
  /-- A value that is left out is what an absent key means. -/
  absent_of_omits : ∀ a, omits a = true → absent = some a
  get : σ → type.Value
  /-- Whether the key belongs to a value that is spread over the object. -/
  spread : Bool

namespace Slot

variable {σ τ : Type}

/-! ### Rows -/

def withDefault (key : String) (form : Form) (value : form.Value) (get : σ → form.Value) : Slot σ :=
  ⟨key, .plain form, some value, fun _ => false, nofun, get, false⟩

def required (key : String) (form : Form) (get : σ → form.Value) : Slot σ :=
  ⟨key, .plain form, none, fun _ => false, nofun, get, false⟩

def optional (key : String) (form : Form) (get : σ → Option form.Value) : Slot σ where
  key
  type := .option form
  absent := some none
  omits := Option.isNone
  absent_of_omits a h := by rw [Option.isNone_iff_eq_none.mp h]
  get
  spread := false

def nullable (key : String) (form : Form) (get : σ → Option form.Value) : Slot σ :=
  ⟨key, .option form, some none, fun _ => false, nofun, get, false⟩

def list (key : String) (item : Form) (get : σ → List item.Value) : Slot σ :=
  withDefault key (.list item) [] get

def sparseList (key : String) (item : Form) (get : σ → List item.Value) : Slot σ where
  key
  type := .plain (.list item)
  absent := some []
  omits := List.isEmpty
  absent_of_omits a h := by rw [List.isEmpty_iff.mp h]
  get
  spread := false

def kind (k : ChannelKind) : Slot σ := required "type" (.kind k) fun _ => ()

/-- Whether one of the keys belongs to a value that is spread over the object. -/
def Spreads (slots : List (Slot σ)) : Prop := ∃ f ∈ slots, f.spread = true

/-- A key of a part, which is spread over the object of the whole. -/
def inPart (part : τ → σ) (f : Slot σ) : Slot τ :=
  { f with get := fun v => f.get (part v), spread := true }

/-- The keys of a part that is spread over the object of the whole. -/
def ofPart (part : τ → σ) (slots : List (Slot σ)) : List (Slot τ) := slots.map (inPart part)

/-! ### Reading and writing a row -/

def field (f : Slot σ) : Field f.type.Value := ⟨f.key, f.type.codec, f.absent, f.omits⟩

/-- How the value of the key is read. -/
def reading (f : Slot σ) (r : Reading) : Reading := if f.spread then .held else r

def read (f : Slot σ) (r : Reading) (o : Object) : Except DecodeError f.type.Value :=
  f.field.read (f.reading r) o

def write (f : Slot σ) (v : σ) : Object := f.field.write (f.get v)

/-- The key has to be there, and it is not. -/
def isMissing (f : Slot σ) (o : Object) : Bool := f.absent.isNone && (o.values f.key).isEmpty

/-- Some value is read. -/
def Succeeds (f : Slot σ) (r : Reading) (o : Object) : Prop := ∃ a, f.read r o = .ok a

end Slot

/-! ### Tables that describe layouts -/

/--
A table describes how the values of `σ` are read and written with a layout, where `σ` stands for
`α` by a projection. There is one case for each way in which the layouts are built.
-/
inductive Describes : {σ α : Type} → List (Slot σ) → (σ → α) → Layout α → Prop
  | last {σ : Type} (f : Slot σ) (own : f.spread = false := by rfl) :
      Describes [f] f.get (.field f.field)
  | cons {σ β : Type} {f : Slot σ} {slots : List (Slot σ)} {proj : σ → β} {rest : Layout β}
      (others : Describes slots proj rest) (own : f.spread = false := by rfl) :
      Describes (f :: slots) (fun v => (f.get v, proj v)) (.and (.field f.field) rest)
  /-- Of a part that is spread and what stands beside it, one has no required key. -/
  | beside {σ τ α β : Type} {shared : List (Slot σ)} {proj : σ → α} {spread : Layout α}
      {slots : List (Slot τ)} {proj' : τ → β} {rest : Layout β} (part : τ → σ)
      (first : Describes shared proj spread) (second : Describes slots proj' rest)
      (optional : (∀ f ∈ shared, f.absent.isSome) ∨ ∀ f ∈ slots, f.absent.isSome) :
      Describes (Slot.ofPart part shared ++ slots) (fun v => (proj (part v), proj' v))
        (.beside spread rest)
  | as {σ α β : Type} {slots : List (Slot σ)} {layout : Layout α} {make : α → β} {split : β → α}
      {proj : σ → β} (inner : Describes slots (fun v => split (proj v)) layout)
      (split_make : ∀ a, split (make a) = a) (make_split : ∀ b, make (split b) = b) :
      Describes slots proj (.as layout make split)
  /-- What a channel holds is read from an object that is held, like what is spread over one. -/
  | kind {k : ChannelKind} {slots : List (Slot k.Content)}
      (inner : Describes slots (fun v => v) k.layout) :
      Describes (.kind k :: Slot.ofPart (fun v => v) slots) k.make Channel.layout

end GatewayCache
