import GatewayCache.IdMap

/-!
Single-level storage. A store whose category is not retained holds nothing: reads miss and
writes vanish. A walk over a store goes over the entries present when it starts. Storage as such
would do with keys of any type; every category of the cache is kept by ids, so keys are ids here.
-/
namespace GatewayCache

/-- Values kept under their ids, or nothing at all when the category is not retained. -/
structure Store (V : Type) where
  retains : Bool
  content : IdMap V
  unretained : retains = false → content = ∅
deriving DecidableEq

namespace Store

variable {V : Type}

def empty (retains : Bool) : Store V := ⟨retains, ∅, fun _ => rfl⟩

instance : Inhabited (Store V) := ⟨empty false⟩

def get? (s : Store V) (id : Snowflake) : Option V := s.content.get? id

/-- Inserts or replaces the value under an id. -/
def put (s : Store V) (id : Snowflake) (value : V) : Store V :=
  if h : s.retains then ⟨s.retains, s.content.insert id value, fun off => by simp [off] at h⟩ else s

/-- Keeps the entries that satisfy `keep`. -/
def retainIf (s : Store V) (keep : Snowflake → V → Bool) : Store V :=
  ⟨s.retains, s.content.filter keep, fun off => by rw [s.unretained off]; rfl⟩

/-- Removes the entries that satisfy `drop`. -/
def eraseIf (s : Store V) (drop : Snowflake → V → Bool) : Store V :=
  s.retainIf fun id value => !drop id value

def erase (s : Store V) (id : Snowflake) : Store V :=
  ⟨s.retains, s.content.erase id, fun off => by rw [s.unretained off]; rfl⟩

/-- Changes the value under an id in place; without one there, nothing changes. -/
def modify (s : Store V) (id : Snowflake) (f : V → V) : Store V :=
  ⟨s.retains, s.content.modify id f, fun off => by rw [s.unretained off]; rfl⟩

/--
Changes the value under an id by an effectful step, and gives the value as it was before. The
step runs once when there is a value and not at all otherwise.
-/
def update {m : Type → Type} [Monad m] (s : Store V) (id : Snowflake) (step : V → m V) :
    m (Option V × Store V) :=
  match s.get? id with
  | none => pure (none, s)
  | some old => do
    let new ← step old
    pure (some old, s.modify id fun _ => new)

/-- Removes several ids in turn, and gives the values that went. -/
def takeAll (s : Store V) : List Snowflake → List V × Store V
  | [] => ([], s)
  | id :: ids =>
    let (taken, rest) := (s.erase id).takeAll ids
    ((s.get? id).toList ++ taken, rest)

/-- Visits the entries that `s` holds now, whatever the visitor does to its own state. -/
def forEach {σ : Type} (s : Store V) (visit : Snowflake → V → σ → σ) (state : σ) : σ :=
  s.content.entries.foldl (fun state e => visit e.1 e.2 state) state

/-- The values in increasing order of their ids. -/
def values (s : Store V) : List V := s.content.values

def size (s : Store V) : Nat := s.content.size

def isEmpty (s : Store V) : Bool := s.size == 0

/-- Two stores of one category with the same lookups are the same store. -/
theorem ext_get? {a b : Store V} (retains : a.retains = b.retains)
    (h : ∀ id, a.get? id = b.get? id) : a = b := by
  obtain ⟨ra, ca, ua⟩ := a
  obtain ⟨rb, cb, ub⟩ := b
  cases retains
  have : ca = cb := IdMap.ext_get? h
  subst this
  rfl

theorem get?_of_not_retains {s : Store V} (h : s.retains = false) (id : Snowflake) :
    s.get? id = none := by
  rw [get?, s.unretained h]
  rfl

@[simp] theorem get?_empty (retains : Bool) (id : Snowflake) :
    (empty retains : Store V).get? id = none := rfl

theorem get?_put (s : Store V) (id : Snowflake) (value : V) (k : Snowflake) :
    (s.put id value).get? k = if s.retains ∧ k = id then some value else s.get? k := by
  rw [put]
  split
  next on => simp [get?, IdMap.get?_insert, on]
  next off => simp [off]

theorem get?_retainIf (s : Store V) (keep : Snowflake → V → Bool) (k : Snowflake) :
    (s.retainIf keep).get? k = (s.get? k).filter (keep k) :=
  IdMap.get?_filter keep s.content k

theorem get?_eraseIf (s : Store V) (drop : Snowflake → V → Bool) (k : Snowflake) :
    (s.eraseIf drop).get? k = (s.get? k).filter fun v => !drop k v :=
  get?_retainIf ..

theorem get?_erase (s : Store V) (id k : Snowflake) :
    (s.erase id).get? k = if k = id then none else s.get? k :=
  IdMap.get?_erase s.content id k

theorem get?_modify (s : Store V) (id : Snowflake) (f : V → V) (k : Snowflake) :
    (s.modify id f).get? k = if k = id then (s.get? k).map f else s.get? k :=
  IdMap.get?_modify s.content id f k

@[simp] theorem retains_empty (retains : Bool) :
    (empty retains : Store V).retains = retains := rfl

@[simp] theorem retains_put (s : Store V) (id : Snowflake) (value : V) :
    (s.put id value).retains = s.retains := by
  rw [put]
  split <;> rfl

@[simp] theorem retains_eraseIf (s : Store V) (drop : Snowflake → V → Bool) :
    (s.eraseIf drop).retains = s.retains := rfl

@[simp] theorem retains_erase (s : Store V) (id : Snowflake) :
    (s.erase id).retains = s.retains := rfl

@[simp] theorem retains_modify (s : Store V) (id : Snowflake) (f : V → V) :
    (s.modify id f).retains = s.retains := rfl

end Store

end GatewayCache
