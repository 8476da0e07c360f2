import GatewayCache.Codec.Basic

/-!
Object layouts: which keys an object has for a value, what stands for an absent one, and when
one is left out. A layout may stand beside another one, so that a value is spread over the object of
another. Keys that a layout does not know mean nothing to it. A value that is not spread over the
object of another, and has none spread over its own, may also be an array of what stands under its
keys, in their order.
-/
namespace GatewayCache

open Json (Object)

/-- One key of an object. -/
structure Field (α : Type) where
  key : String
  codec : Codec α
  /-- What an absent key means; without a meaning the key is required. -/
  absent : Option α
  /-- Whether the key is left out for a value. -/
  omits : α → Bool

namespace Field

variable {α : Type}

/-- Reads the key. It may occur once only. -/
def read (f : Field α) (r : Reading) (o : Object) : Except DecodeError α :=
  match o.values f.key with
  | [] => match f.absent with
    | some a => .ok a
    | none => .error (.missingField f.key)
  | [j] => f.codec.read r j
  | _ => .error (.duplicateField f.key)

/-- Reads what stands under the key from the next item of an array; gives the items behind it. -/
def readItem (f : Field α) (r : Reading) : List Json → Except DecodeError (α × List Json)
  | [] => match f.absent with
    | some a => .ok (a, [])
    | none => .error .invalid
  | item :: items => (f.codec.read r item).map (·, items)

/-- Writes the key, or leaves it out. -/
def write (f : Field α) (a : α) : Object :=
  if f.omits a then [] else [(f.key, f.codec.encode a)]

end Field

/-- A way to read a type from the members of an object or from items, and to write it as members. -/
structure Layout (α : Type) where
  /-- The keys with a meaning, in the order in which they are read. -/
  keys : List String
  read : Reading → Object → Except DecodeError α
  /-- Reads a value from the first items of an array, and gives the items behind it. -/
  readItems : Reading → List Json → Except DecodeError (α × List Json)
  write : α → Object

namespace Layout

variable {α β : Type}

def field (f : Field α) : Layout α := ⟨[f.key], f.read, f.readItem, f.write⟩

/-- A key that has to be there. -/
def required (key : String) (codec : Codec α) : Layout α :=
  field ⟨key, codec, none, fun _ => false⟩

/-- A key that stands for `value` when it is absent. -/
def withDefault (key : String) (codec : Codec α) (value : α) : Layout α :=
  field ⟨key, codec, some value, fun _ => false⟩

/-- A key that is left out when there is no value; `null` reads as no value, too. -/
def optional (key : String) (codec : Codec α) : Layout (Option α) :=
  field ⟨key, codec.nullable, some none, Option.isNone⟩

/-- A key that is `null` when there is no value; an absent key reads as no value, too. -/
def nullable (key : String) (codec : Codec α) : Layout (Option α) :=
  field ⟨key, codec.nullable, some none, fun _ => false⟩

/-- A list that is empty when its key is absent. -/
def list (key : String) (codec : Codec α) : Layout (List α) :=
  withDefault key codec.list []

/-- A list whose key is left out when it is empty. -/
def sparseList (key : String) (codec : Codec α) : Layout (List α) :=
  field ⟨key, codec.list, some [], List.isEmpty⟩

/-- Two layouts in one object. -/
def and (first : Layout α) (second : Layout β) : Layout (α × β) where
  keys := first.keys ++ second.keys
  read r o := do
    let a ← first.read r o
    let b ← second.read r o
    .ok (a, b)
  readItems r items := do
    let (a, items) ← first.readItems r items
    let (b, items) ← second.readItems r items
    .ok ((a, b), items)
  write ab := first.write ab.1 ++ second.write ab.2

/--
A value that is spread over the object, and beside it keys of the object's own. The own keys are
read as they come, and the other ones are held until all have come.
-/
def beside (spread : Layout α) (own : Layout β) : Layout (α × β) where
  keys := own.keys ++ spread.keys
  read r o := do
    let b ← own.read r o
    if (o.filter fun m => !own.keys.contains m.1).all (·.2.isReadable) then do
      let a ← spread.read .held o
      .ok (a, b)
    else .error .malformed
  readItems _ _ := .error .invalid
  write ab := spread.write ab.1 ++ own.write ab.2

/-- A value that is spread over an object without keys of the object's own. -/
def alone (spread : Layout α) : Layout α where
  keys := spread.keys
  read _ o := if o.all (·.2.isReadable) then spread.read .held o else .error .malformed
  readItems _ _ := .error .invalid
  write := spread.write

/-- The same members, read as another type. -/
def as (layout : Layout α) (make : α → β) (split : β → α) : Layout β where
  keys := layout.keys
  read r o := (layout.read r o).map make
  readItems r items := (layout.readItems r items).map fun (a, items) => (make a, items)
  write b := layout.write (split b)

/-- Reads a value from an array that holds nothing behind it. -/
def readArray (layout : Layout α) (r : Reading) (items : List Json) : Except DecodeError α := do
  let (a, behind) ← layout.readItems r items
  if behind.isEmpty then .ok a else .error .invalid

/-- A value that is a document of its own: an object, or an array. It is written as an object. -/
def codec (layout : Layout α) : Codec α where
  read
    | r, .object o => layout.read r o
    | r, .array items => layout.readArray r items
    | _, _ => .error .invalid
  encode a := .object (layout.write a)

end Layout

end GatewayCache
