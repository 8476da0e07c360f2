import GatewayCache.IdMap

/-!
Two-level storage: each group of entities under the id of its owner. A group goes with its last
entity, so the groups present are those that hold something. Storage as such would do with groups
and keys of any type; the owners and entities of the cache have ids, so both are ids here.
-/
namespace GatewayCache

/-- Values kept under a group id and their own id, or nothing at all when not retained. -/
structure GroupedStore (V : Type) where
  retains : Bool
  groups : IdMap (IdMap V)
  inhabited : ∀ g members, groups.get? g = some members → members ≠ ∅
  unretained : retains = false → groups = ∅

namespace GroupedStore

variable {V : Type}

def empty (retains : Bool) : GroupedStore V :=
  ⟨retains, ∅, fun _ _ h => by simp at h, fun _ => rfl⟩

instance : Inhabited (GroupedStore V) := ⟨empty false⟩

/-- The members of a group; a group that is not present has none. -/
def group (s : GroupedStore V) (g : Snowflake) : IdMap V := (s.groups.get? g).getD ∅

/-- The value under a group and an id. -/
def get? (s : GroupedStore V) (g id : Snowflake) : Option V := (s.group g).get? id

/-- Makes `members` the content of a group, and drops the group when there are none. -/
def setGroup (s : GroupedStore V) (g : Snowflake) (members : IdMap V) : GroupedStore V :=
  if on : s.retains then
    if none : members.isEmpty then
      ⟨s.retains, s.groups.erase g,
        fun k content h => by
          rw [IdMap.get?_erase] at h
          split at h
          · simp at h
          · exact s.inhabited k content h,
        fun off => by simp [off] at on⟩
    else
      ⟨s.retains, s.groups.insert g members,
        fun k content h => by
          rw [IdMap.get?_insert] at h
          split at h
          · cases h
            exact fun empty => none (IdMap.isEmpty_iff.2 empty)
          · exact s.inhabited k content h,
        fun off => by simp [off] at on⟩
  else s

/-- Inserts or replaces the value under a group and an id. -/
def put (s : GroupedStore V) (g id : Snowflake) (value : V) : GroupedStore V :=
  s.setGroup g ((s.group g).insert id value)

def erase (s : GroupedStore V) (g id : Snowflake) : GroupedStore V :=
  s.setGroup g ((s.group g).erase id)

/-- Changes the value under a group and an id in place. -/
def modify (s : GroupedStore V) (g id : Snowflake) (f : V → V) : GroupedStore V :=
  s.setGroup g ((s.group g).modify id f)

/--
Changes the value under a group and an id by an effectful step, and gives the value as it was
before. The step runs once when there is a value and not at all otherwise.
-/
def update {m : Type → Type} [Monad m] (s : GroupedStore V) (g id : Snowflake) (step : V → m V) :
    m (Option V × GroupedStore V) :=
  match s.get? g id with
  | none => pure (none, s)
  | some old => do
    let new ← step old
    pure (some old, s.modify g id fun _ => new)

def eraseGroup (s : GroupedStore V) (g : Snowflake) : GroupedStore V := s.setGroup g ∅

/-- A group that holds something; one that does not is no group. -/
def inhabited? (members : IdMap V) : Option (IdMap V) :=
  if members.isEmpty then none else some members

/-- Removes the entries that satisfy `drop`. -/
def eraseIf (s : GroupedStore V) (drop : Snowflake → Snowflake → V → Bool) : GroupedStore V :=
  ⟨s.retains,
    s.groups.filterMap fun g members =>
      inhabited? (members.filter fun id value => !drop g id value),
    fun k content h => by
      rw [IdMap.get?_filterMap, Option.bind_eq_some_iff] at h
      obtain ⟨members, _, kept⟩ := h
      simp only [inhabited?] at kept
      split at kept
      · simp at kept
      next filled =>
        cases kept
        exact fun none => filled (IdMap.isEmpty_iff.2 none),
    fun off => by rw [s.unretained off]; rfl⟩

/-- Removes several ids of a group in turn, and gives the values that went. -/
def takeAll (s : GroupedStore V) (g : Snowflake) : List Snowflake → List V × GroupedStore V
  | [] => ([], s)
  | id :: ids =>
    let (taken, rest) := (s.erase g id).takeAll g ids
    ((s.get? g id).toList ++ taken, rest)

/-- Every entry as group, id and value, in increasing order of group and id. -/
def entries (s : GroupedStore V) : List (Snowflake × Snowflake × V) :=
  s.groups.entries.flatMap fun e => e.2.entries.map fun m => (e.1, m.1, m.2)

/-- Every value, in increasing order of group and id. -/
def values (s : GroupedStore V) : List V := s.entries.map (·.2.2)

/-- The values of a group in increasing order of their ids. -/
def groupValues (s : GroupedStore V) (g : Snowflake) : List V := (s.group g).values

/-- Visits the entries that `s` holds now, whatever the visitor does to its own state. -/
def forEach {σ : Type} (s : GroupedStore V) (visit : Snowflake → Snowflake → V → σ → σ)
    (state : σ) : σ :=
  s.entries.foldl (fun state e => visit e.1 e.2.1 e.2.2 state) state

/-- Visits the entries that a group holds now, whatever the visitor does to its own state. -/
def forEachIn {σ : Type} (s : GroupedStore V) (g : Snowflake) (visit : Snowflake → V → σ → σ)
    (state : σ) : σ :=
  (s.group g).entries.foldl (fun state e => visit e.1 e.2 state) state

/-- The number of values over all groups. -/
def size (s : GroupedStore V) : Nat := s.entries.length

def isEmpty (s : GroupedStore V) : Bool := s.size == 0

def groupSize (s : GroupedStore V) (g : Snowflake) : Nat := (s.group g).size

/-- The number of groups that hold something. -/
def groupCount (s : GroupedStore V) : Nat := s.groups.size

/-! ### Lookups -/

/-- Two stores of one category with the same lookups are the same store. -/
theorem ext_get? {a b : GroupedStore V} (retains : a.retains = b.retains)
    (h : ∀ g id, a.get? g id = b.get? g id) : a = b := by
  have groups : a.groups = b.groups := IdMap.ext_get? fun g => by
    have same : a.group g = b.group g := IdMap.ext_get? (h g)
    simp only [group] at same
    cases ha : a.groups.get? g with
    | none =>
      cases hb : b.groups.get? g with
      | none => rfl
      | some members => exact absurd (by simpa [ha, hb] using same.symm) (b.inhabited g members hb)
    | some members =>
      cases hb : b.groups.get? g with
      | none => exact absurd (by simpa [ha, hb] using same) (a.inhabited g members ha)
      | some _ => simpa [ha, hb] using same
  obtain ⟨ra, ga, ia, ua⟩ := a
  obtain ⟨rb, gb, ib, ub⟩ := b
  cases retains
  cases groups
  rfl

theorem group_of_not_retains {s : GroupedStore V} (h : s.retains = false) (g : Snowflake) :
    s.group g = ∅ := by
  rw [group, s.unretained h]
  rfl

theorem get?_of_not_retains {s : GroupedStore V} (h : s.retains = false) (g id : Snowflake) :
    s.get? g id = none := by
  rw [get?, group_of_not_retains h]
  rfl

@[simp] theorem get?_empty (retains : Bool) (g id : Snowflake) :
    (empty retains : GroupedStore V).get? g id = none := rfl

theorem group_setGroup (s : GroupedStore V) (g : Snowflake) (members : IdMap V) (k : Snowflake) :
    (s.setGroup g members).group k = if s.retains ∧ k = g then members else s.group k := by
  rw [setGroup]
  split
  next on =>
    split
    next none =>
      by_cases h : k = g <;> simp [group, IdMap.get?_erase, on, h, IdMap.isEmpty_iff.1 none]
    next => by_cases h : k = g <;> simp [group, IdMap.get?_insert, on, h]
  next off => simp [off]

theorem get?_setGroup (s : GroupedStore V) (g : Snowflake) (members : IdMap V)
    (k id : Snowflake) :
    (s.setGroup g members).get? k id =
      if s.retains ∧ k = g then members.get? id else s.get? k id := by
  rw [get?, group_setGroup]
  split <;> rfl

theorem get?_put (s : GroupedStore V) (g id : Snowflake) (value : V) (k j : Snowflake) :
    (s.put g id value).get? k j =
      if s.retains ∧ k = g ∧ j = id then some value else s.get? k j := by
  rw [put, get?_setGroup, IdMap.get?_insert]
  by_cases hk : k = g
  · subst hk
    by_cases on : s.retains <;> by_cases hj : j = id <;> simp [on, hj, get?]
  · simp [hk]

theorem get?_erase (s : GroupedStore V) (g id k j : Snowflake) :
    (s.erase g id).get? k j = if k = g ∧ j = id then none else s.get? k j := by
  rw [erase, get?_setGroup, IdMap.get?_erase]
  cases on : s.retains with
  | false => simp [get?_of_not_retains on]
  | true =>
    by_cases hk : k = g
    · subst hk
      by_cases hj : j = id <;> simp [hj, get?]
    · simp [hk]

theorem get?_modify (s : GroupedStore V) (g id : Snowflake) (f : V → V) (k j : Snowflake) :
    (s.modify g id f).get? k j =
      if k = g ∧ j = id then (s.get? k j).map f else s.get? k j := by
  rw [modify, get?_setGroup, IdMap.get?_modify]
  cases on : s.retains with
  | false => simp [get?_of_not_retains on]
  | true =>
    by_cases hk : k = g
    · subst hk
      by_cases hj : j = id <;> simp [hj, get?]
    · simp [hk]

theorem get?_eraseGroup (s : GroupedStore V) (g k j : Snowflake) :
    (s.eraseGroup g).get? k j = if k = g then none else s.get? k j := by
  rw [eraseGroup, get?_setGroup]
  cases on : s.retains with
  | false => simp [get?_of_not_retains on]
  | true => by_cases hk : k = g <;> simp [hk]

theorem group_eraseIf (s : GroupedStore V) (drop : Snowflake → Snowflake → V → Bool)
    (g : Snowflake) :
    (s.eraseIf drop).group g = (s.group g).filter fun id value => !drop g id value := by
  simp only [group, eraseIf, IdMap.get?_filterMap]
  cases s.groups.get? g with
  | none => rfl
  | some members =>
    simp only [Option.bind_some, Option.getD_some, inhabited?]
    split
    next none => exact (IdMap.isEmpty_iff.1 none).symm
    next => rfl

theorem get?_eraseIf (s : GroupedStore V) (drop : Snowflake → Snowflake → V → Bool)
    (g id : Snowflake) :
    (s.eraseIf drop).get? g id = (s.get? g id).filter fun v => !drop g id v := by
  rw [get?, group_eraseIf, IdMap.get?_filter]
  rfl

@[simp] theorem retains_empty (retains : Bool) :
    (empty retains : GroupedStore V).retains = retains := rfl

@[simp] theorem retains_setGroup (s : GroupedStore V) (g : Snowflake) (members : IdMap V) :
    (s.setGroup g members).retains = s.retains := by
  rw [setGroup]
  split
  · split <;> rfl
  · rfl

@[simp] theorem retains_put (s : GroupedStore V) (g id : Snowflake) (value : V) :
    (s.put g id value).retains = s.retains := by simp [put]

@[simp] theorem retains_erase (s : GroupedStore V) (g id : Snowflake) :
    (s.erase g id).retains = s.retains := by simp [erase]

@[simp] theorem retains_modify (s : GroupedStore V) (g id : Snowflake) (f : V → V) :
    (s.modify g id f).retains = s.retains := by simp [modify]

@[simp] theorem retains_eraseGroup (s : GroupedStore V) (g : Snowflake) :
    (s.eraseGroup g).retains = s.retains := by simp [eraseGroup]

@[simp] theorem retains_eraseIf (s : GroupedStore V) (drop : Snowflake → Snowflake → V → Bool) :
    (s.eraseIf drop).retains = s.retains := rfl

end GroupedStore

end GatewayCache
