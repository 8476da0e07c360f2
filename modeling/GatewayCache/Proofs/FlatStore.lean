import GatewayCache.Proofs.Lookup
import Mathlib.Data.Finmap
import Mathlib.Data.Finset.Image

/-!
A two-level store as one flat map. Under pairs of a group and an id the store and the map hold the
same, they count the same, and every sequence of calls has the same answers and the same effects on
both. Only the store knows groups, but it has those of the pairs that are there, and no other.
-/
namespace GatewayCache

/-- A finite map from pairs of a group and an id. -/
abbrev FlatMap (V : Type) := Finmap fun _ : Snowflake × Snowflake => V

variable {V : Type}

namespace FlatMap

/-- Leaves out the entries that satisfy `drop`. -/
def dropIf (f : FlatMap V) (drop : Snowflake → Snowflake → V → Bool) : FlatMap V where
  entries := f.entries.filter fun e => !drop e.1.1 e.1.2 e.2
  nodupKeys := by
    have fewer := Multiset.map_le_map (f := Sigma.fst)
      (Multiset.filter_le (fun e => !drop e.1.1 e.1.2 e.2) f.entries)
    exact Multiset.nodup_keys.1 (Multiset.nodup_of_le fewer (Multiset.nodup_keys.2 f.nodupKeys))

/-- The pairs of a group that are present. -/
def keysIn (f : FlatMap V) (g : Snowflake) : Finset (Snowflake × Snowflake) :=
  f.keys.filter (·.1 = g)

/-- The groups of the pairs that are present. -/
def groups (f : FlatMap V) : Finset Snowflake := f.keys.image (·.1)

theorem lookup_dropIf (f : FlatMap V) (drop : Snowflake → Snowflake → V → Bool)
    (k : Snowflake × Snowflake) :
    (f.dropIf drop).lookup k = (f.lookup k).filter fun v => !drop k.1 k.2 v := by
  ext v
  rw [← Option.mem_def, Finmap.mem_lookup_iff, Option.filter_eq_some_iff, ← Option.mem_def,
    Finmap.mem_lookup_iff]
  simp [dropIf]

end FlatMap

namespace GroupedStore

variable {s : GroupedStore V}

/-! ### Entries -/

theorem mem_entries {e : Snowflake × Snowflake × V} :
    e ∈ s.entries ↔ s.get? e.1 e.2.1 = some e.2.2 := by
  obtain ⟨g, id, v⟩ := e
  simp only [entries, List.mem_flatMap, List.mem_map, get?, group]
  constructor
  · rintro ⟨⟨_, members⟩, present, ⟨_, _⟩, member, same⟩
    cases same
    rw [IdMap.get?_eq_some_iff.2 present]
    exact IdMap.get?_eq_some_iff.2 member
  · intro found
    cases present : s.groups.get? g with
    | none => simp [present] at found
    | some members =>
      rw [present] at found
      exact ⟨(g, members), IdMap.get?_eq_some_iff.1 present, (id, v),
        IdMap.get?_eq_some_iff.1 found, rfl⟩

/-- An entry with its group and id as one key. -/
def pair (e : Snowflake × Snowflake × V) : Σ _ : Snowflake × Snowflake, V := ⟨(e.1, e.2.1), e.2.2⟩

/-- No pair of a group and an id occurs twice. -/
theorem nodup_keys_entries (s : GroupedStore V) : (s.entries.map fun e => (e.1, e.2.1)).Nodup := by
  have listed : (s.entries.map fun e => (e.1, e.2.1)) =
      s.groups.entries.flatMap fun e => e.2.ids.map (e.1, ·) := by
    simp [entries, List.map_flatMap, IdMap.ids, Function.comp_def]
  rw [listed, List.nodup_flatMap]
  constructor
  · intro e _
    exact (IdMap.nodup_ids e.2).map fun _ _ same => (Prod.mk.inj same).2
  · refine s.groups.increasing.imp fun {a b} below key inA inB => ?_
    obtain ⟨_, -, rfl⟩ := List.mem_map.1 inA
    obtain ⟨_, -, same⟩ := List.mem_map.1 inB
    rw [(Prod.mk.inj same).1] at below
    exact UInt64.lt_irrefl _ below

/-- The store as one map. -/
def flat (s : GroupedStore V) : FlatMap V where
  entries := (s.entries.map pair : List _)
  nodupKeys := by
    rw [Multiset.coe_nodupKeys, List.NodupKeys, List.keys, List.map_map]
    exact s.nodup_keys_entries

theorem lookup_flat (s : GroupedStore V) (g id : Snowflake) :
    s.flat.lookup (g, id) = s.get? g id := by
  ext v
  rw [← Option.mem_def, Finmap.mem_lookup_iff]
  simp only [flat, Multiset.mem_coe, List.mem_map, mem_entries]
  constructor
  · rintro ⟨e, found, same⟩
    cases same
    exact found
  · intro found
    exact ⟨(g, id, v), found, rfl⟩

theorem mem_keys_flat {k : Snowflake × Snowflake} :
    k ∈ s.flat.keys ↔ ∃ v, s.get? k.1 k.2 = some v := by
  rw [Finmap.mem_keys, Finmap.mem_iff, ← lookup_flat]

/-! ### Counts and visits -/

theorem size_eq_card (s : GroupedStore V) : s.size = s.flat.keys.card := by
  simp [size, Finmap.keys, flat, Multiset.keys]

theorem isEmpty_iff_flat : s.isEmpty = true ↔ s.flat = ∅ := by
  rw [isEmpty, beq_iff_eq, size_eq_card, Finset.card_eq_zero]
  constructor
  · intro none
    refine Finmap.ext_lookup fun k => ?_
    have absent : k ∉ s.flat := by simp [← Finmap.mem_keys, none]
    rw [Finmap.lookup_eq_none.2 absent, Finmap.lookup_empty]
  · intro none
    rw [none, Finmap.keys_empty]

theorem groupSize_eq_card (s : GroupedStore V) (g : Snowflake) :
    s.groupSize g = (s.flat.keysIn g).card := by
  have pairs : s.flat.keysIn g = (s.group g).ids.toFinset.image (g, ·) := by
    ext ⟨k, id⟩
    simp only [FlatMap.keysIn, Finset.mem_filter, mem_keys_flat, Finset.mem_image,
      List.mem_toFinset, IdMap.mem_ids, Prod.mk.injEq]
    constructor
    · rintro ⟨found, rfl⟩
      exact ⟨id, found, rfl, rfl⟩
    · rintro ⟨_, found, rfl, rfl⟩
      exact ⟨found, rfl⟩
  rw [pairs, Finset.card_image_of_injective _ (Prod.mk_right_injective g),
    List.toFinset_card_of_nodup (IdMap.nodup_ids _)]
  simp [groupSize, IdMap.size, IdMap.ids]

/-- A group is present just if some pair of it is, as no group is empty. -/
theorem groupCount_eq_card (s : GroupedStore V) : s.groupCount = s.flat.groups.card := by
  have present : s.flat.groups = s.groups.ids.toFinset := by
    ext g
    simp only [FlatMap.groups, Finset.mem_image, mem_keys_flat, List.mem_toFinset, IdMap.mem_ids]
    constructor
    · rintro ⟨⟨k, id⟩, ⟨v, found⟩, rfl⟩
      cases group : s.groups.get? k with
      | none => simp [get?, GroupedStore.group, group] at found
      | some members => exact ⟨members, rfl⟩
    · rintro ⟨members, group⟩
      have filled : members.entries ≠ [] := by
        intro none
        exact s.inhabited g members group (IdMap.isEmpty_iff.1 (by simp [IdMap.isEmpty, none]))
      obtain ⟨⟨id, v⟩, member⟩ := List.exists_mem_of_ne_nil _ filled
      refine ⟨(g, id), ⟨v, ?_⟩, rfl⟩
      simpa [get?, GroupedStore.group, group] using IdMap.get?_eq_some_iff.2 member
  rw [present, List.toFinset_card_of_nodup (IdMap.nodup_ids _)]
  simp [groupCount, IdMap.size, IdMap.ids]

/-- The entries of one group, under their pairs. -/
theorem entries_group (s : GroupedStore V) (g : Snowflake) :
    (((s.group g).entries.map fun e => ⟨(g, e.1), e.2⟩ : List (Σ _ : Snowflake × Snowflake, V)) :
        Multiset _) = s.flat.entries.filter (·.1.1 = g) := by
  have unique : (s.group g).entries.Nodup := (IdMap.nodup_ids (s.group g)).of_map _
  have distinct : ((s.group g).entries.map fun e =>
      (⟨(g, e.1), e.2⟩ : Σ _ : Snowflake × Snowflake, V)).Nodup := by
    refine unique.map fun a b same => ?_
    cases a
    cases b
    cases same
    rfl
  refine (Multiset.Nodup.ext (Multiset.coe_nodup.2 distinct) (s.flat.nodup_entries.filter _)).2 ?_
  rintro ⟨⟨k, id⟩, v⟩
  rw [Multiset.mem_filter, ← Finmap.mem_lookup_iff, Option.mem_def, lookup_flat]
  simp only [Multiset.mem_coe, List.mem_map]
  constructor
  · rintro ⟨e, member, same⟩
    cases same
    exact ⟨IdMap.get?_eq_some_iff.2 member, rfl⟩
  · rintro ⟨found, rfl⟩
    exact ⟨(id, v), IdMap.get?_eq_some_iff.1 found, rfl⟩

/-! ### Changes -/

theorem flat_empty (retains : Bool) : (empty retains : GroupedStore V).flat = ∅ := rfl

theorem flat_put (on : s.retains = true) (g id : Snowflake) (v : V) :
    (s.put g id v).flat = s.flat.insert (g, id) v := by
  refine Finmap.ext_lookup fun (k, j) => ?_
  rw [lookup_flat, get?_put]
  by_cases here : (k, j) = (g, id)
  · cases here
    rw [if_pos ⟨on, rfl, rfl⟩, Finmap.lookup_insert]
  · rw [Finmap.lookup_insert_of_ne _ here, lookup_flat, if_neg]
    rintro ⟨-, rfl, rfl⟩
    exact here rfl

theorem flat_erase (s : GroupedStore V) (g id : Snowflake) :
    (s.erase g id).flat = s.flat.erase (g, id) := by
  refine Finmap.ext_lookup fun (k, j) => ?_
  rw [lookup_flat, get?_erase]
  by_cases here : (k, j) = (g, id)
  · cases here
    rw [if_pos ⟨rfl, rfl⟩, Finmap.lookup_erase]
  · rw [Finmap.lookup_erase_ne here, lookup_flat, if_neg]
    rintro ⟨rfl, rfl⟩
    exact here rfl

/-- A value that is changed in place is put in place of the one that is there. -/
theorem flat_modify {g id : Snowflake} {old : V} (found : s.get? g id = some old) (new : V) :
    (s.modify g id fun _ => new).flat = s.flat.insert (g, id) new := by
  refine Finmap.ext_lookup fun (k, j) => ?_
  rw [lookup_flat, get?_modify]
  by_cases here : (k, j) = (g, id)
  · cases here
    rw [if_pos ⟨rfl, rfl⟩, found, Option.map_some, Finmap.lookup_insert]
  · rw [Finmap.lookup_insert_of_ne _ here, lookup_flat, if_neg]
    rintro ⟨rfl, rfl⟩
    exact here rfl

theorem flat_eraseIf (s : GroupedStore V) (drop : Snowflake → Snowflake → V → Bool) :
    (s.eraseIf drop).flat = s.flat.dropIf drop := by
  refine Finmap.ext_lookup fun (k, j) => ?_
  rw [lookup_flat, get?_eraseIf, FlatMap.lookup_dropIf, lookup_flat]

end GroupedStore

/-! ### Sequences of calls -/

/-- A call that changes a store. The step of an update may have effects of its own. -/
inductive StoreCall (m : Type → Type) (V : Type) where
  | put (g id : Snowflake) (value : V)
  | remove (g id : Snowflake)
  | update (g id : Snowflake) (step : V → m V)
  | removeIf (drop : Snowflake → Snowflake → V → Bool)
  | removeGroup (g : Snowflake)

/-- What a call answers. -/
inductive StoreAnswer (V : Type) where
  | done
  /-- The value that was there before. -/
  | old (value : Option V)
  /-- The number of values that went. -/
  | count (n : Nat)
deriving DecidableEq

section Calls

variable {m : Type → Type} [Monad m]

/-- Carries out a call on a store. -/
def GroupedStore.perform (s : GroupedStore V) : StoreCall m V → m (StoreAnswer V × GroupedStore V)
  | .put g id v => pure (.done, s.put g id v)
  | .remove g id => pure (.old (s.get? g id), s.erase g id)
  | .update g id step => do
    let (old, next) ← s.update g id step
    pure (.old old, next)
  | .removeIf drop => pure (.done, s.eraseIf drop)
  | .removeGroup g => pure (.count (s.groupSize g), s.eraseGroup g)

/-- Carries out a call on a flat map. -/
def FlatMap.perform (f : FlatMap V) : StoreCall m V → m (StoreAnswer V × FlatMap V)
  | .put g id v => pure (.done, f.insert (g, id) v)
  | .remove g id => pure (.old (f.lookup (g, id)), f.erase (g, id))
  | .update g id step =>
    match f.lookup (g, id) with
    | none => pure (.old none, f)
    | some old => do
      let new ← step old
      pure (.old (some old), f.insert (g, id) new)
  | .removeIf drop => pure (.done, f.dropIf drop)
  | .removeGroup g => pure (.count (f.keysIn g).card, f.dropIf fun k _ _ => k == g)

/-- Carries out calls in order, by a way to carry out one. -/
def performAll {σ : Type} (perform : σ → StoreCall m V → m (StoreAnswer V × σ)) (state : σ) :
    List (StoreCall m V) → m (List (StoreAnswer V) × σ)
  | [] => pure ([], state)
  | call :: calls => do
    let (answer, next) ← perform state call
    let (answers, last) ← performAll perform next calls
    pure (answer :: answers, last)

variable [LawfulMonad m]

/-- A call on a store has the effects and the answer that it has on the flat map, and what follows
it goes on from stores and maps that hold the same. -/
theorem GroupedStore.perform_bind {β : Type} {s : GroupedStore V} (on : s.retains = true)
    (call : StoreCall m V) {next : StoreAnswer V × GroupedStore V → m β}
    {next' : StoreAnswer V × FlatMap V → m β}
    (same : ∀ answer t, t.retains = true → next (answer, t) = next' (answer, t.flat)) :
    s.perform call >>= next = s.flat.perform call >>= next' := by
  cases call with
  | put g id v =>
    simp only [perform, FlatMap.perform, pure_bind, ← flat_put on]
    exact same _ _ ((retains_put ..).trans on)
  | remove g id =>
    simp only [perform, FlatMap.perform, pure_bind, ← flat_erase, lookup_flat]
    exact same _ _ ((retains_erase ..).trans on)
  | update g id step =>
    simp only [perform, FlatMap.perform, update, lookup_flat]
    cases found : s.get? g id with
    | none =>
      simp only [pure_bind]
      exact same _ _ on
    | some old =>
      -- The step runs in both, and whatever it makes of the value takes its place.
      simp only [bind_assoc, pure_bind, ← flat_modify found]
      exact bind_congr fun new => same _ _ ((retains_modify ..).trans on)
  | removeIf drop =>
    simp only [perform, FlatMap.perform, pure_bind, ← flat_eraseIf]
    exact same _ _ on
  | removeGroup g =>
    simp only [perform, FlatMap.perform, pure_bind, ← flat_eraseIf, ← eraseGroup_eq_eraseIf,
      ← groupSize_eq_card]
    exact same _ _ ((retains_eraseGroup ..).trans on)

theorem GroupedStore.performAll_flat {s : GroupedStore V} (on : s.retains = true)
    (calls : List (StoreCall m V)) :
    (fun (answers, last) => (answers, last.flat)) <$> performAll perform s calls =
      performAll FlatMap.perform s.flat calls := by
  induction calls generalizing s with
  | nil => simp [performAll]
  | cons call calls ih =>
    simp only [performAll, map_eq_pure_bind, bind_assoc]
    refine perform_bind on call fun answer t on' => ?_
    rw [← ih on']
    simp only [map_eq_pure_bind, bind_assoc, pure_bind]

end Calls

/-- Whatever is read from the store `s` is what the flat map `f` says: lookups, counts, and walks,
which visit every entry that they are about once. -/
structure ReadsAs (s : GroupedStore V) (f : FlatMap V) : Prop where
  get? : ∀ g id, s.get? g id = f.lookup (g, id)
  size : s.size = f.keys.card
  isEmpty : s.isEmpty = true ↔ f = ∅
  groupSize : ∀ g, s.groupSize g = (f.keysIn g).card
  groupCount : s.groupCount = f.groups.card
  forEach : ∃ visits : List (Σ _ : Snowflake × Snowflake, V), (visits : Multiset _) = f.entries ∧
    ∀ {σ : Type} (visit : Snowflake → Snowflake → V → σ → σ) (state : σ),
      s.forEach visit state = visits.foldl (fun state e => visit e.1.1 e.1.2 e.2 state) state
  forEachIn : ∀ g, ∃ visits : List (Σ _ : Snowflake × Snowflake, V),
    (visits : Multiset _) = f.entries.filter (·.1.1 = g) ∧
      ∀ {σ : Type} (visit : Snowflake → V → σ → σ) (state : σ),
        s.forEachIn g visit state = visits.foldl (fun state e => visit e.1.2 e.2 state) state

theorem GroupedStore.readsAs_flat (s : GroupedStore V) : ReadsAs s s.flat where
  get? g id := (s.lookup_flat g id).symm
  size := s.size_eq_card
  isEmpty := isEmpty_iff_flat
  groupSize := s.groupSize_eq_card
  groupCount := s.groupCount_eq_card
  forEach := by
    refine ⟨s.entries.map pair, rfl, fun visit state => ?_⟩
    rw [List.foldl_map]
    rfl
  forEachIn g := by
    refine ⟨(s.group g).entries.map fun e => ⟨(g, e.1), e.2⟩, s.entries_group g,
      fun visit state => ?_⟩
    rw [List.foldl_map]
    rfl

/--
Calls on a two-level store that is empty at first have the answers and effects that they have on one
flat map, and end in a store that the flat map stands for. Such a map stands for every store:
whatever is read from the store is what it says.
-/
theorem GroupedStore.refines_flat {m : Type → Type} [Monad m] [LawfulMonad m]
    (calls : List (StoreCall m V)) :
    (fun (answers, last) => (answers, last.flat)) <$> performAll perform (empty true) calls =
        performAll FlatMap.perform ∅ calls ∧
      ∀ s : GroupedStore V, ReadsAs s s.flat := by
  refine ⟨?_, readsAs_flat⟩
  rw [← flat_empty true]
  exact performAll_flat rfl calls

/--
With updates that count their steps: one of a value that is there counts, and one of a value that is
not there does not. A group that loses its last value is gone, and one with a value left is not.
-/
theorem GroupedStore.refines_flat_of_counted :
    let bump (v : Nat) : StateM Nat Nat := modifyGet fun steps => (v + 1, steps + 1)
    let calls : List (StoreCall (StateM Nat) Nat) := [
      .put 1 10 5, .put 2 10 7, .put 2 11 8, .put 3 10 9, .update 1 10 bump, .update 1 11 bump,
      .remove 1 10, .remove 1 10, .removeGroup 3, .removeIf fun _ id _ => id == 11]
    let ((answers, last), steps) := (performAll perform (empty true) calls).run 0
    LawfulMonad (StateM Nat) ∧
      ((answers, last.flat), steps) = (performAll FlatMap.perform ∅ calls).run 0 ∧ steps = 1 ∧
      answers = [.done, .done, .done, .done, .old (some 5), .old none, .old (some 6), .old none,
        .count 1, .done] ∧
      last.groupCount = last.flat.groups.card ∧ last.groupCount = 1 := by
  intro bump calls
  obtain ⟨same, reads⟩ := refines_flat calls
  exact ⟨inferInstance, congrArg (·.run 0) same, rfl, by decide, (reads _).groupCount, by decide⟩

end GatewayCache
