import GatewayCache.Cache.Filed
import GatewayCache.Store.Keyed

/-!
Lookups after several steps on one store: a run of removals is one removal, what a run of removals
gives back is each present value once, and the last of several filed values wins.
-/
namespace GatewayCache

/-! ### Lists -/

/-- Leaving out what a filter drops and leaving out repetitions commute. -/
theorem eraseDups_filter {α : Type} [BEq α] [LawfulBEq α] (keep : α → Bool) :
    ∀ l : List α, (l.filter keep).eraseDups = l.eraseDups.filter keep
  | [] => rfl
  | a :: l => by
    have shorter : (l.filter fun b => !b == a).length < l.length + 1 :=
      Nat.lt_succ_of_le (List.length_filter_le _ _)
    rw [List.eraseDups_cons, List.filter_cons, List.filter_cons,
      ← eraseDups_filter keep (l.filter fun b => !b == a), List.filter_filter]
    split
    next kept =>
      rw [List.eraseDups_cons, List.filter_filter]
      simp only [Bool.and_comm]
    next dropped =>
      -- What is dropped anyway need not be dropped as a repetition.
      congr 1
      refine List.filter_congr fun b _ => ?_
      by_cases same : b = a
      · simpa [same] using dropped
      · simp [same]
termination_by l => l.length

theorem eraseDups_of_nodup {α : Type} [BEq α] [LawfulBEq α] {l : List α} (distinct : l.Nodup) :
    l.eraseDups = l := by
  induction l with
  | nil => rfl
  | cons a l ih =>
    obtain ⟨fresh, rest⟩ := List.nodup_cons.1 distinct
    have kept : l.filter (fun b => !b == a) = l := by
      refine List.filter_eq_self.2 fun b member => ?_
      have other : b ≠ a := fun same => fresh (same ▸ member)
      simpa using other
    -- The head occurs nowhere else, so nothing is filtered out behind it.
    rw [List.eraseDups_cons, kept, ih rest]

theorem filterMap_eraseDups_cons {α β : Type} [BEq α] [LawfulBEq α] [DecidableEq α]
    (f : α → Option β) (a : α) (l : List α) :
    (a :: l).eraseDups.filterMap f =
      (f a).toList ++ l.eraseDups.filterMap fun b => if b = a then none else f b := by
  -- Instead of leaving `a` out of the list, `f` may leave it out.
  have rest : (l.eraseDups.filter fun b => !b == a).filterMap f =
      l.eraseDups.filterMap fun b => if b = a then none else f b := by
    rw [List.filterMap_filter]
    congr 1
    funext b
    by_cases same : b = a <;> simp [same]
  rw [List.eraseDups_cons, eraseDups_filter, ← rest]
  cases found : f a <;> simp [found]

/-- Looking the keys of some values up gives the values back, if each is found under its key. -/
theorem filterMap_map_key {K V : Type} (key : V → K) (look : K → Option V) (values : List V)
    (found : ∀ v ∈ values, look (key v) = some v) : (values.map key).filterMap look = values := by
  induction values with
  | nil => rfl
  | cons v values ih =>
    rw [List.map_cons, List.filterMap_cons_some (found v (by simp))]
    rw [ih fun w member => found w (List.mem_cons_of_mem _ member)]

theorem findRev?_eq_none_iff {α : Type} {p : α → Bool} {l : List α} :
    l.findRev? p = none ↔ ∀ a ∈ l, ¬p a = true := by
  simp only [List.findRev?_eq_find?_reverse, List.find?_eq_none, List.mem_reverse]

theorem of_findRev?_eq_some {α : Type} {p : α → Bool} {l : List α} {a : α}
    (found : l.findRev? p = some a) : a ∈ l ∧ p a = true := by
  rw [List.findRev?_eq_find?_reverse] at found
  exact ⟨List.mem_reverse.1 (List.mem_of_find?_eq_some found), List.find?_some found⟩

theorem findRev?_map {α β : Type} (f : α → β) (p : β → Bool) (l : List α) :
    (l.map f).findRev? p = (l.findRev? fun a => p (f a)).map f := by
  rw [List.findRev?_eq_find?_reverse, List.findRev?_eq_find?_reverse, ← List.map_reverse,
    List.find?_map]
  rfl

theorem mem_map_iff_findRev? {V : Type} {key : V → Snowflake} {values : List V} {id : Snowflake} :
    id ∈ values.map key ↔ ∃ v, values.findRev? (key · == id) = some v := by
  rw [← Option.isSome_iff_exists, ← Option.ne_none_iff_isSome, ne_eq, findRev?_eq_none_iff]
  simp [List.mem_map]

/-! ### Maps -/

namespace IdMap

variable {V : Type}

theorem mem_values {m : IdMap V} {v : V} : v ∈ m.values ↔ ∃ id, m.get? id = some v := by
  simp only [values, List.mem_map, get?_eq_some_iff]
  constructor
  · rintro ⟨⟨id, _⟩, member, rfl⟩
    exact ⟨id, member⟩
  · rintro ⟨id, member⟩
    exact ⟨(id, v), member, rfl⟩

theorem mem_ids {m : IdMap V} {id : Snowflake} : id ∈ m.ids ↔ ∃ v, m.get? id = some v := by
  simp only [ids, List.mem_map, get?_eq_some_iff]
  constructor
  · rintro ⟨⟨_, v⟩, member, rfl⟩
    exact ⟨v, member⟩
  · rintro ⟨v, member⟩
    exact ⟨(id, v), member, rfl⟩

theorem nodup_ids (m : IdMap V) : m.ids.Nodup := by
  refine List.pairwise_map.2 (m.increasing.imp fun less same => ?_)
  rw [same] at less
  exact UInt64.lt_irrefl _ less

theorem size_eq_zero {m : IdMap V} : m.size = 0 ↔ m = ∅ := by
  rw [size, List.length_eq_zero_iff, ← isEmpty_iff, isEmpty, List.isEmpty_iff]

end IdMap

/-! ### Single-level stores -/

namespace Store

variable {V : Type}

theorem mem_values {s : Store V} {v : V} : v ∈ s.values ↔ ∃ id, s.get? id = some v :=
  IdMap.mem_values

/-- Keeps values under their own ids, one after the other. -/
def putAll (key : V → Snowflake) (s : Store V) (values : List V) : Store V :=
  values.foldl (fun s v => s.put (key v) v) s

theorem erase_eq_eraseIf (s : Store V) (id : Snowflake) :
    s.erase id = s.eraseIf fun k _ => k == id := by
  refine ext_get? rfl fun k => ?_
  rw [get?_erase, get?_eraseIf]
  cases s.get? k <;> by_cases same : k = id <;> simp [Option.filter, same]

theorem eraseIf_eraseIf (s : Store V) (first second : Snowflake → V → Bool) :
    (s.eraseIf first).eraseIf second = s.eraseIf fun id v => first id v || second id v := by
  refine ext_get? rfl fun k => ?_
  rw [get?_eraseIf, get?_eraseIf, get?_eraseIf, Option.filter_filter]
  simp only [Bool.not_or]

/-- What is left was there before. -/
theorem found_of_eraseIf {s : Store V} {drop : Snowflake → V → Bool} {id : Snowflake} {v : V}
    (found : (s.eraseIf drop).get? id = some v) : s.get? id = some v := by
  rw [get?_eraseIf] at found
  exact (Option.filter_eq_some_iff.1 found).1

theorem eraseIf_of_keeps (s : Store V) : (s.eraseIf fun _ _ => false) = s := by
  refine ext_get? rfl fun k => ?_
  rw [get?_eraseIf]
  cases s.get? k <;> rfl

/-- A removal of what an earlier one removed already changes nothing. -/
theorem eraseIf_eraseIf_of_imp (s : Store V) {first second : Snowflake → V → Bool}
    (covered : ∀ id v, second id v → first id v) :
    (s.eraseIf first).eraseIf second = s.eraseIf first := by
  rw [eraseIf_eraseIf]
  congr 1
  funext id v
  exact Bool.or_eq_left_iff_imp.2 (covered id v)

theorem erase_erase (s : Store V) (id : Snowflake) : (s.erase id).erase id = s.erase id := by
  simp only [erase_eq_eraseIf]
  exact s.eraseIf_eraseIf_of_imp fun _ _ same => same

theorem put_put (s : Store V) (id : Snowflake) (v : V) : (s.put id v).put id v = s.put id v := by
  refine ext_get? (by simp) fun k => ?_
  simp only [get?_put, retains_put]
  by_cases here : s.retains ∧ k = id <;> simp [here]

/-- A value that a removal would not reach may be put before it or after it. -/
theorem put_eraseIf (s : Store V) {id : Snowflake} {v : V} {drop : Snowflake → V → Bool}
    (spared : drop id v = false) : (s.eraseIf drop).put id v = (s.put id v).eraseIf drop := by
  refine ext_get? (by simp) fun k => ?_
  rw [get?_put, get?_eraseIf, get?_eraseIf, get?_put, retains_eraseIf]
  by_cases here : s.retains ∧ k = id
  · obtain ⟨on, rfl⟩ := here
    rw [if_pos ⟨on, rfl⟩, if_pos ⟨on, rfl⟩, Option.filter_some, spared]
    rfl
  · simp [here]

theorem modify_modify (s : Store V) (id : Snowflake) (f f' : V → V) :
    (s.modify id f).modify id f' = s.modify id fun v => f' (f v) := by
  refine ext_get? rfl fun k => ?_
  rw [get?_modify, get?_modify, get?_modify]
  by_cases here : k = id <;> simp [here, Function.comp_def]

/-- A change in place that leaves the value there as it is. -/
theorem modify_eq_self {s : Store V} {id : Snowflake} {f : V → V}
    (same : ∀ v, s.get? id = some v → f v = v) : s.modify id f = s := by
  refine ext_get? rfl fun k => ?_
  rw [get?_modify]
  split
  next here =>
    subst here
    cases found : s.get? k with
    | none => rfl
    | some v => exact congrArg some (same v found)
  next => rfl

@[simp] theorem retains_putAll (key : V → Snowflake) (s : Store V) (values : List V) :
    (s.putAll key values).retains = s.retains := by
  induction values generalizing s with
  | nil => rfl
  | cons v values ih => exact (ih (s.put (key v) v)).trans (retains_put ..)

/-- Of several values put one after the other the last one with an id is found under it. -/
theorem get?_putAll (key : V → Snowflake) (s : Store V) (values : List V) (id : Snowflake) :
    (s.putAll key values).get? id =
      if s.retains then (values.findRev? fun v => key v == id).or (s.get? id) else none := by
  induction values generalizing s with
  | nil =>
    cases on : s.retains with
    | false => exact get?_of_not_retains on id
    | true => rfl
  | cons v values ih =>
    refine (ih (s.put (key v) v)).trans ?_
    rw [retains_put, get?_put]
    simp only [List.findRev?_eq_find?_reverse, List.reverse_cons, List.find?_append,
      List.find?_singleton]
    by_cases here : key v = id
    · cases on : s.retains <;> cases List.find? _ values.reverse <;> simp [here]
    · have other : id ≠ key v := fun same => here same.symm
      cases on : s.retains <;> cases List.find? _ values.reverse <;> simp [here, other]

theorem putAll_putAll (key : V → Snowflake) (s : Store V) (values : List V) :
    (s.putAll key values).putAll key values = s.putAll key values := by
  refine ext_get? (by simp) fun id => ?_
  simp only [get?_putAll, retains_putAll]
  cases s.retains <;> cases values.findRev? fun v => key v == id <;> simp

theorem foldl_erase (s : Store V) (ids : List Snowflake) :
    ids.foldl erase s = s.eraseIf fun id _ => ids.contains id := by
  induction ids generalizing s with
  | nil => exact s.eraseIf_of_keeps.symm
  | cons id ids ih =>
    rw [List.foldl_cons, ih, erase_eq_eraseIf, eraseIf_eraseIf]
    simp only [List.contains_cons]

theorem snd_takeAll (s : Store V) (ids : List Snowflake) :
    (s.takeAll ids).2 = s.eraseIf fun id _ => ids.contains id := by
  rw [← foldl_erase]
  induction ids generalizing s with
  | nil => rfl
  | cons id ids ih => exact ih (s.erase id)

/-- Removing ids in turn gives what was under each of them, once. -/
theorem fst_takeAll (s : Store V) (ids : List Snowflake) :
    (s.takeAll ids).1 = ids.eraseDups.filterMap s.get? := by
  induction ids generalizing s with
  | nil => rfl
  | cons id ids ih =>
    have rest := ih (s.erase id)
    -- The later removals see the store without the first id.
    simp only [funext fun k => get?_erase s id k] at rest
    rw [filterMap_eraseDups_cons, ← rest]
    rfl

end Store

/-! ### Two-level stores -/

namespace GroupedStore

variable {V : Type}

theorem erase_eq_eraseIf (s : GroupedStore V) (g id : Snowflake) :
    s.erase g id = s.eraseIf fun k j _ => k == g && j == id := by
  refine ext_get? (by simp) fun k j => ?_
  rw [get?_erase, get?_eraseIf]
  cases s.get? k j <;> by_cases group : k = g <;> by_cases same : j = id <;>
    simp [Option.filter, group, same]

theorem eraseGroup_eq_eraseIf (s : GroupedStore V) (g : Snowflake) :
    s.eraseGroup g = s.eraseIf fun k _ _ => k == g := by
  refine ext_get? (by simp) fun k j => ?_
  rw [get?_eraseGroup, get?_eraseIf]
  cases s.get? k j <;> by_cases group : k = g <;> simp [Option.filter, group]

theorem eraseIf_eraseIf (s : GroupedStore V) (first second : Snowflake → Snowflake → V → Bool) :
    (s.eraseIf first).eraseIf second = s.eraseIf fun g id v => first g id v || second g id v := by
  refine ext_get? rfl fun k j => ?_
  rw [get?_eraseIf, get?_eraseIf, get?_eraseIf, Option.filter_filter]
  simp only [Bool.not_or]

theorem found_of_eraseIf {s : GroupedStore V} {drop : Snowflake → Snowflake → V → Bool}
    {g id : Snowflake} {v : V} (found : (s.eraseIf drop).get? g id = some v) :
    s.get? g id = some v := by
  rw [get?_eraseIf] at found
  exact (Option.filter_eq_some_iff.1 found).1

theorem eraseIf_of_keeps (s : GroupedStore V) : (s.eraseIf fun _ _ _ => false) = s := by
  refine ext_get? rfl fun k j => ?_
  rw [get?_eraseIf]
  cases s.get? k j <;> rfl

/-- A removal of what an earlier one removed already changes nothing. -/
theorem eraseIf_eraseIf_of_imp (s : GroupedStore V)
    {first second : Snowflake → Snowflake → V → Bool}
    (covered : ∀ g id v, second g id v → first g id v) :
    (s.eraseIf first).eraseIf second = s.eraseIf first := by
  rw [eraseIf_eraseIf]
  congr 1
  funext g id v
  exact Bool.or_eq_left_iff_imp.2 (covered g id v)

theorem erase_erase (s : GroupedStore V) (g id : Snowflake) :
    (s.erase g id).erase g id = s.erase g id := by
  simp only [erase_eq_eraseIf]
  exact s.eraseIf_eraseIf_of_imp fun _ _ _ same => same

theorem eraseGroup_eraseGroup (s : GroupedStore V) (g : Snowflake) :
    (s.eraseGroup g).eraseGroup g = s.eraseGroup g := by
  simp only [eraseGroup_eq_eraseIf]
  exact s.eraseIf_eraseIf_of_imp fun _ _ _ same => same

theorem foldl_eraseGroup (s : GroupedStore V) (groups : List Snowflake) :
    groups.foldl eraseGroup s = s.eraseIf fun g _ _ => groups.contains g := by
  induction groups generalizing s with
  | nil => exact s.eraseIf_of_keeps.symm
  | cons g groups ih =>
    rw [List.foldl_cons, ih, eraseGroup_eq_eraseIf, eraseIf_eraseIf]
    simp only [List.contains_cons]

theorem snd_takeAll (s : GroupedStore V) (g : Snowflake) (ids : List Snowflake) :
    (s.takeAll g ids).2 = s.eraseIf fun k id _ => k == g && ids.contains id := by
  induction ids generalizing s with
  | nil => simpa [takeAll] using s.eraseIf_of_keeps.symm
  | cons id ids ih =>
    refine (ih (s.erase g id)).trans ?_
    rw [erase_eq_eraseIf, eraseIf_eraseIf]
    simp only [List.contains_cons, Bool.and_or_distrib_left]

/-- Removing ids of a group in turn gives what was under each of them, once. -/
theorem fst_takeAll (s : GroupedStore V) (g : Snowflake) (ids : List Snowflake) :
    (s.takeAll g ids).1 = ids.eraseDups.filterMap (s.get? g) := by
  induction ids generalizing s with
  | nil => rfl
  | cons id ids ih =>
    have rest := ih (s.erase g id)
    -- The later removals see the group without the first id.
    have erased : (s.erase g id).get? g = fun j => if j = id then none else s.get? g j := by
      funext j
      simp [get?_erase]
    rw [erased] at rest
    rw [filterMap_eraseDups_cons, ← rest]
    rfl

theorem mem_groupValues {s : GroupedStore V} {g : Snowflake} {v : V} :
    v ∈ s.groupValues g ↔ ∃ id, s.get? g id = some v :=
  IdMap.mem_values

/-! ### Filing -/

section Filing

variable [Filed V]

@[simp] theorem retains_add (s : GroupedStore V) (v : V) : (s.add v).retains = s.retains := by
  rw [add]
  split
  · exact retains_put ..
  · rfl

theorem get?_add (s : GroupedStore V) (v : V) (g id : Snowflake) :
    (s.add v).get? g id =
      if s.retains ∧ Filed.owner? v = some g ∧ Filed.key v = id then some v else s.get? g id := by
  rw [add]
  cases owner : Filed.owner? v with
  | none => simp
  | some owner => simp only [get?_put, Option.some.injEq, eq_comm]

/-- The last of several values that is filed under a group and an id. -/
def lastFiled (g id : Snowflake) (values : List V) : Option V :=
  values.findRev? fun v => Filed.owner? v == some g && Filed.key v == id

theorem lastFiled_of_owner {owner : Snowflake} {values : List V}
    (owned : ∀ v ∈ values, Filed.owner? v = some owner) (g id : Snowflake) :
    lastFiled g id values =
      if owner = g then values.findRev? fun v => Filed.key v == id else none := by
  rw [lastFiled]
  induction values with
  | nil => split <;> rfl
  | cons v values ih =>
    have rest := ih fun w member => owned w (List.mem_cons_of_mem v member)
    rw [List.findRev?, List.findRev?, rest, owned v List.mem_cons_self]
    by_cases here : owner = g <;> simp [here]

/-- Values that become an owner's with their keys unchanged are looked for before they do. -/
theorem lastFiled_map {owner : Snowflake} {place : V → V}
    (owned : ∀ v, Filed.owner? (place v) = some owner)
    (same : ∀ v, Filed.key (place v) = Filed.key v) (values : List V) (g id : Snowflake) :
    lastFiled g id (values.map place) =
      if owner = g then (values.findRev? fun v => Filed.key v == id).map place else none := by
  rw [lastFiled_of_owner (List.forall_mem_map.2 fun v _ => owned v), findRev?_map]
  simp only [same]

/-- Of several values filed one after the other the last one with a key is found under it. -/
theorem get?_addAll (s : GroupedStore V) (values : List V) (g id : Snowflake) :
    (s.addAll values).get? g id =
      if s.retains then (lastFiled g id values).or (s.get? g id) else none := by
  induction values generalizing s with
  | nil =>
    cases on : s.retains with
    | false => exact get?_of_not_retains on g id
    | true => rfl
  | cons v values ih =>
    refine (ih (s.add v)).trans ?_
    rw [retains_add, get?_add]
    -- What the later values leave to the store is left to `v` first, and then to the store.
    simp only [lastFiled, List.findRev?_eq_find?_reverse, List.reverse_cons, List.find?_append,
      List.find?_singleton]
    cases on : s.retains <;> cases List.find? _ values.reverse <;>
      by_cases here : Filed.owner? v = some g ∧ Filed.key v = id <;> simp [here]

@[simp] theorem retains_addAll (s : GroupedStore V) (values : List V) :
    (s.addAll values).retains = s.retains := by
  induction values generalizing s with
  | nil => rfl
  | cons v values ih => exact (ih (s.add v)).trans (retains_add ..)

theorem addAll_addAll (s : GroupedStore V) (values : List V) :
    (s.addAll values).addAll values = s.addAll values := by
  refine ext_get? (by simp) fun g id => ?_
  simp only [get?_addAll, retains_addAll]
  cases s.retains <;> cases lastFiled g id values <;> simp

theorem add_add (s : GroupedStore V) (v : V) : (s.add v).add v = s.add v := s.addAll_addAll [v]

end Filing

end GroupedStore

end GatewayCache
