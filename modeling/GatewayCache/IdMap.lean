import GatewayCache.Snowflake

/-!
Finite maps keyed by id. The entries stand in increasing order of id, so two maps with the
same lookups are the same map.
-/
namespace GatewayCache

/-- A finite map from ids to values. -/
structure IdMap (V : Type) where
  entries : List (Snowflake × V)
  increasing : entries.Pairwise fun a b => a.1 < b.1
deriving DecidableEq

namespace IdMap

variable {V W : Type}

/-! ### Entry lists -/

/-- Puts `value` under `id` into an increasing list, replacing the entry that is there. -/
def insertEntry (id : Snowflake) (value : V) : List (Snowflake × V) → List (Snowflake × V)
  | [] => [(id, value)]
  | (other, old) :: rest =>
    if id < other then (id, value) :: (other, old) :: rest
    else if id = other then (id, value) :: rest
    else (other, old) :: insertEntry id value rest

theorem fst_mem_insertEntry {id : Snowflake} {value : V} {entries : List (Snowflake × V)}
    {e : Snowflake × V} (h : e ∈ insertEntry id value entries) : e.1 = id ∨ e ∈ entries := by
  induction entries with
  | nil => simp_all [insertEntry]
  | cons first rest ih =>
    obtain ⟨other, old⟩ := first
    simp only [insertEntry] at h
    split at h
    · simp only [List.mem_cons] at h ⊢
      rcases h with rfl | h
      · exact .inl rfl
      · exact .inr h
    · split at h
      · simp only [List.mem_cons] at h ⊢
        rcases h with rfl | h
        · exact .inl rfl
        · exact .inr (.inr h)
      · simp only [List.mem_cons] at h ⊢
        rcases h with rfl | h
        · exact .inr (.inl rfl)
        · exact (ih h).imp_right .inr

theorem pairwise_insertEntry (id : Snowflake) (value : V) {entries : List (Snowflake × V)}
    (h : entries.Pairwise fun a b => a.1 < b.1) :
    (insertEntry id value entries).Pairwise fun a b => a.1 < b.1 := by
  induction entries with
  | nil => simp [insertEntry]
  | cons first rest ih =>
    obtain ⟨other, old⟩ := first
    obtain ⟨above, tail⟩ := List.pairwise_cons.1 h
    simp only [insertEntry]
    split
    next less =>
      refine List.pairwise_cons.2 ⟨fun e mem => ?_, h⟩
      rcases List.mem_cons.1 mem with rfl | mem
      · exact less
      · exact UInt64.lt_trans less (above e mem)
    next notLess =>
      split
      next same =>
        subst same
        exact List.pairwise_cons.2 ⟨above, tail⟩
      next different =>
        refine List.pairwise_cons.2 ⟨fun e mem => ?_, ih tail⟩
        rcases fst_mem_insertEntry mem with same | mem
        · simp only [same]
          grind
        · exact above e mem

theorem lookup_insertEntry (id : Snowflake) (value : V) {entries : List (Snowflake × V)}
    (h : entries.Pairwise fun a b => a.1 < b.1) (k : Snowflake) :
    (insertEntry id value entries).lookup k = if k = id then some value else entries.lookup k := by
  induction entries with
  | nil => grind [insertEntry]
  | cons first rest ih =>
    obtain ⟨other, old⟩ := first
    have tail := ih (List.pairwise_cons.1 h).2
    grind [insertEntry]

theorem lookup_eq_some_iff {entries : List (Snowflake × V)}
    (h : entries.Pairwise fun a b => a.1 < b.1) {k : Snowflake} {v : V} :
    entries.lookup k = some v ↔ (k, v) ∈ entries := by
  induction entries with
  | nil => simp
  | cons first rest ih =>
    obtain ⟨other, old⟩ := first
    obtain ⟨above, tail⟩ := List.pairwise_cons.1 h
    rw [List.lookup_cons, List.mem_cons]
    by_cases same : k = other
    · subst same
      have fresh : (k, v) ∉ rest := fun mem => UInt64.lt_irrefl k (above (k, v) mem)
      simp [fresh, eq_comm]
    · have tested : (k == other) = false := by simpa using same
      simp [tested, same, ih tail]

/-! ### Maps -/

def empty : IdMap V := ⟨[], .nil⟩

instance : EmptyCollection (IdMap V) := ⟨empty⟩
instance : Inhabited (IdMap V) := ⟨empty⟩

def get? (m : IdMap V) (id : Snowflake) : Option V := m.entries.lookup id

/-- Puts a value under an id, in place of the one that is there. -/
def insert (m : IdMap V) (id : Snowflake) (value : V) : IdMap V :=
  ⟨insertEntry id value m.entries, pairwise_insertEntry id value m.increasing⟩

private theorem pairwise_filterMap (f : Snowflake → V → Option W) {entries : List (Snowflake × V)}
    (h : entries.Pairwise fun a b => a.1 < b.1) :
    (entries.filterMap fun e => (f e.1 e.2).map (e.1, ·)).Pairwise fun a b => a.1 < b.1 := by
  refine List.pairwise_filterMap.2 (h.imp fun less b hb b' hb' => ?_)
  simp only [Option.map_eq_some_iff] at hb hb'
  obtain ⟨_, _, rfl⟩ := hb
  obtain ⟨_, _, rfl⟩ := hb'
  exact less

/-- Keeps the entries on which `f` answers, with the values it gives. -/
def filterMap (f : Snowflake → V → Option W) (m : IdMap V) : IdMap W :=
  ⟨m.entries.filterMap fun e => (f e.1 e.2).map (e.1, ·), pairwise_filterMap f m.increasing⟩

def filter (keep : Snowflake → V → Bool) (m : IdMap V) : IdMap V :=
  m.filterMap fun id value => if keep id value then some value else none

def erase (m : IdMap V) (id : Snowflake) : IdMap V := m.filter fun k _ => k != id

/-- Changes the value under an id; without one there, nothing changes. -/
def modify (m : IdMap V) (id : Snowflake) (f : V → V) : IdMap V :=
  m.filterMap fun k value => some (if k = id then f value else value)

def size (m : IdMap V) : Nat := m.entries.length

def isEmpty (m : IdMap V) : Bool := m.entries.isEmpty

/-- The ids in increasing order. -/
def ids (m : IdMap V) : List Snowflake := m.entries.map (·.1)

/-- The values in increasing order of their ids. -/
def values (m : IdMap V) : List V := m.entries.map (·.2)

theorem get?_eq_some_iff {m : IdMap V} {k : Snowflake} {v : V} :
    m.get? k = some v ↔ (k, v) ∈ m.entries :=
  lookup_eq_some_iff m.increasing

/-- Two maps with the same lookups are the same map. -/
theorem ext_get? {a b : IdMap V} (h : ∀ k, a.get? k = b.get? k) : a = b := by
  obtain ⟨as, incA⟩ := a
  obtain ⟨bs, incB⟩ := b
  suffices as = bs by subst this; rfl
  have member : ∀ e, e ∈ as ↔ e ∈ bs := fun ⟨k, v⟩ => by
    rw [← lookup_eq_some_iff incA, ← lookup_eq_some_iff incB]
    exact (congrArg (· = some v) (h k)).to_iff
  have irreflexive : ∀ e : Snowflake × V, ¬ e.1 < e.1 := fun e => UInt64.lt_irrefl e.1
  clear h
  induction as generalizing bs with
  | nil =>
    cases bs with
    | nil => rfl
    | cons b bs => exact absurd ((member b).2 (.head _)) (by simp)
  | cons a as ih =>
    cases bs with
    | nil => exact absurd ((member a).1 (.head _)) (by simp)
    | cons b bs =>
      obtain ⟨aboveA, tailA⟩ := List.pairwise_cons.1 incA
      obtain ⟨aboveB, tailB⟩ := List.pairwise_cons.1 incB
      -- Each head is the least entry of its own list, so neither can lie in the other's tail.
      have same : a = b := by
        rcases List.mem_cons.1 ((member a).1 (.head _)) with same | inB
        · exact same
        · rcases List.mem_cons.1 ((member b).2 (.head _)) with same | inA
          · exact same.symm
          · exact absurd (UInt64.lt_trans (aboveA b inA) (aboveB a inB)) (irreflexive a)
      subst same
      rw [ih tailA bs tailB fun e => ?_]
      have fresh : a ∉ as := fun mem => irreflexive a (aboveA a mem)
      have fresh' : a ∉ bs := fun mem => irreflexive a (aboveB a mem)
      have := member e
      simp only [List.mem_cons] at this
      by_cases atHead : e = a
      · simp [atHead, fresh, fresh']
      · simpa [atHead] using this

@[simp] theorem get?_empty (k : Snowflake) : (∅ : IdMap V).get? k = none := rfl

theorem get?_insert (m : IdMap V) (id : Snowflake) (value : V) (k : Snowflake) :
    (m.insert id value).get? k = if k = id then some value else m.get? k :=
  lookup_insertEntry id value m.increasing k

theorem get?_filterMap (f : Snowflake → V → Option W) (m : IdMap V) (k : Snowflake) :
    (m.filterMap f).get? k = (m.get? k).bind (f k) := by
  ext w
  rw [get?_eq_some_iff]
  simp only [filterMap, List.mem_filterMap, Option.map_eq_some_iff, Option.bind_eq_some_iff]
  constructor
  · rintro ⟨⟨id, v⟩, mem, w', eq, same⟩
    cases same
    exact ⟨v, get?_eq_some_iff.2 mem, eq⟩
  · rintro ⟨v, found, eq⟩
    exact ⟨(k, v), get?_eq_some_iff.1 found, w, eq, rfl⟩

theorem get?_filter (keep : Snowflake → V → Bool) (m : IdMap V) (k : Snowflake) :
    (m.filter keep).get? k = (m.get? k).filter (keep k) := by
  rw [filter, get?_filterMap]
  cases m.get? k <;> simp [Option.filter]

theorem get?_erase (m : IdMap V) (id k : Snowflake) :
    (m.erase id).get? k = if k = id then none else m.get? k := by
  rw [erase, get?_filter]
  cases m.get? k <;> by_cases h : k = id <;> simp [Option.filter, h]

theorem get?_modify (m : IdMap V) (id : Snowflake) (f : V → V) (k : Snowflake) :
    (m.modify id f).get? k = if k = id then (m.get? k).map f else m.get? k := by
  rw [modify, get?_filterMap]
  cases m.get? k <;> by_cases h : k = id <;> simp [h]

theorem isEmpty_iff {m : IdMap V} : m.isEmpty ↔ m = ∅ := by
  obtain ⟨entries, increasing⟩ := m
  cases entries <;> simp [isEmpty, EmptyCollection.emptyCollection, empty]

end IdMap

end GatewayCache
