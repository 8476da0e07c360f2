import GatewayCache.IdMap

/-! Finite sets of ids, for a yes-or-no fact kept per entity. -/
namespace GatewayCache

/-- A finite set of ids. -/
structure IdSet where
  members : IdMap Unit
deriving DecidableEq

namespace IdSet

def empty : IdSet := ⟨∅⟩

instance : EmptyCollection IdSet := ⟨empty⟩
instance : Inhabited IdSet := ⟨empty⟩

def contains (s : IdSet) (id : Snowflake) : Bool := (s.members.get? id).isSome

def insert (s : IdSet) (id : Snowflake) : IdSet := ⟨s.members.insert id ()⟩

def erase (s : IdSet) (id : Snowflake) : IdSet := ⟨s.members.erase id⟩

/-- Sets the membership of an id to `present`. -/
def set (s : IdSet) (id : Snowflake) (present : Bool) : IdSet :=
  if present then s.insert id else s.erase id

/-- Whether setting the membership of an id to `present` changes the set. -/
def changes (s : IdSet) (id : Snowflake) (present : Bool) : Bool := s.contains id != present

def toList (s : IdSet) : List Snowflake := s.members.ids

def size (s : IdSet) : Nat := s.members.size

def isEmpty (s : IdSet) : Bool := s.members.isEmpty

/-- Two sets with the same members are the same set. -/
theorem ext_contains {a b : IdSet} (h : ∀ id, a.contains id = b.contains id) : a = b := by
  obtain ⟨a⟩ := a
  obtain ⟨b⟩ := b
  congr 1
  refine IdMap.ext_get? fun id => ?_
  have := h id
  simp only [contains] at this
  cases ha : a.get? id <;> cases hb : b.get? id <;> simp_all

@[simp] theorem contains_empty (id : Snowflake) : (∅ : IdSet).contains id = false := rfl

theorem contains_insert (s : IdSet) (id k : Snowflake) :
    (s.insert id).contains k = (k == id || s.contains k) := by
  simp only [contains, insert, IdMap.get?_insert]
  by_cases h : k = id <;> simp [h]

theorem contains_erase (s : IdSet) (id k : Snowflake) :
    (s.erase id).contains k = (k != id && s.contains k) := by
  simp only [contains, erase, IdMap.get?_erase]
  by_cases h : k = id <;> simp [h]

theorem contains_set (s : IdSet) (id : Snowflake) (present : Bool) (k : Snowflake) :
    (s.set id present).contains k = if k = id then present else s.contains k := by
  cases present <;> by_cases h : k = id <;> simp [set, contains_insert, contains_erase, h]

/-- The set with the id in it or not, as one formula. -/
theorem contains_set_eq (s : IdSet) (id : Snowflake) (present : Bool) (g : Snowflake) :
    (s.set id present).contains g = ((id == g && present) || (s.contains g && !(id == g))) := by
  rw [contains_set]
  by_cases here : id = g
  · simp [here]
  · have other : (id == g) = false := beq_eq_false_iff_ne.2 here
    simp [other, Ne.symm here]

theorem set_eq_self {s : IdSet} {id : Snowflake} {present : Bool}
    (h : s.changes id present = false) : s.set id present = s := by
  refine ext_contains fun k => ?_
  simp only [changes, bne_eq_false_iff_eq] at h
  by_cases same : k = id
  · simp [contains_set, same, h]
  · simp [contains_set, same]

end IdSet

end GatewayCache
