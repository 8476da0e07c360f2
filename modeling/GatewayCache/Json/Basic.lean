/-!
JSON documents. An object keeps its keys as they stand, in order and with repetitions, because
whether a repeated key matters depends on who reads the object. For the same reason a part that
follows the grammar and denotes nothing is kept, too: it does no harm where nobody reads it.
-/
namespace GatewayCache

/--
A JSON number. A literal of digits alone is an integer, except `-0`; any other literal is the
real number `digits * 10 ^ exponent` with its sign.
-/
inductive Json.Number where
  | integer (value : Int)
  | real (negative : Bool) (digits : Nat) (exponent : Int)
deriving DecidableEq

/-- A JSON document. -/
inductive Json where
  | null
  | bool (value : Bool)
  | number (value : Json.Number)
  | string (value : String)
  | array (items : List Json)
  | object (members : List (String × Json))
  /--
  What denotes nothing: a number beyond the doubles, a string with half of a surrogate pair, an
  object with such a key, or a container that is nested too deep.
  -/
  | unreadable
deriving Inhabited

namespace Json

/-- The members of an object in the order they stand. -/
abbrev Object := List (String × Json)

/-- The values that an object gives for a key, in the order they stand. -/
def Object.values (o : Object) (key : String) : List Json :=
  o.filterMap fun m => if m.1 = key then some m.2 else none

def ofInt (value : Int) : Json := .number (.integer value)

def ofNat (value : Nat) : Json := ofInt value

@[simp] theorem Object.values_nil (key : String) : Object.values [] key = [] := rfl

theorem Object.values_cons (m : String × Json) (o : Object) (key : String) :
    Object.values (m :: o) key = if m.1 = key then m.2 :: Object.values o key
      else Object.values o key := by
  by_cases h : m.1 = key <;> simp [Object.values, h]

theorem Object.values_append (a b : Object) (key : String) :
    Object.values (a ++ b) key = Object.values a key ++ Object.values b key := by
  simp [Object.values]

theorem Object.values_insert (before after : Object) (key : String) (j : Json) :
    Object.values (before ++ (key, j) :: after) key =
      Object.values before key ++ j :: Object.values after key := by
  simp [Object.values_append, Object.values_cons]

theorem Object.values_insert_of_ne {before after : Object} {key other : String} {j : Json}
    (ne : key ≠ other) :
    Object.values (before ++ (key, j) :: after) other = Object.values (before ++ after) other := by
  simp [Object.values_append, Object.values_cons, ne]

theorem Object.mem_values {o : Object} {key : String} {j : Json} :
    j ∈ o.values key ↔ (key, j) ∈ o := by
  simp [Object.values]

theorem Object.mem_of_values_eq {o : Object} {key : String} {j : Json} (one : o.values key = [j]) :
    (key, j) ∈ o :=
  mem_values.mp (one ▸ List.mem_singleton_self j)

/-! ### Readable documents -/

mutual

/-- Whether every part of a document denotes something. -/
def isReadable : Json → Bool
  | .null | .bool _ | .number _ | .string _ => true
  | .array items => allReadable items
  | .object members => membersReadable members
  | .unreadable => false

/-- Whether all items are readable. -/
def allReadable : List Json → Bool
  | [] => true
  | item :: items => isReadable item && allReadable items

/-- Whether all values of an object are readable. -/
def membersReadable : List (String × Json) → Bool
  | [] => true
  | (_, value) :: members => isReadable value && membersReadable members

end

theorem allReadable_eq_all (items : List Json) : allReadable items = items.all isReadable := by
  induction items with
  | nil => rfl
  | cons item items ih => rw [allReadable, ih, List.all_cons]

theorem membersReadable_eq_all (members : Object) :
    membersReadable members = members.all fun m => m.2.isReadable := by
  induction members with
  | nil => rfl
  | cons m members ih => rw [membersReadable, ih, List.all_cons]

theorem readable_array {items : List Json} :
    (array items).isReadable ↔ ∀ item ∈ items, item.isReadable := by
  rw [isReadable, allReadable_eq_all, List.all_eq_true]

theorem readable_object {o : Object} : (object o).isReadable ↔ ∀ m ∈ o, m.2.isReadable := by
  rw [isReadable, membersReadable_eq_all, List.all_eq_true]

theorem readable_of_values {o : Object} {key : String} {j : Json}
    (readable : (object o).isReadable) (one : o.values key = [j]) : j.isReadable :=
  readable_object.mp readable (key, j) (Object.mem_of_values_eq one)

end Json

end GatewayCache
