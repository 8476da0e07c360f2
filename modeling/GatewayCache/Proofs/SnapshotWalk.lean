import GatewayCache.Proofs.FlatStore
import GatewayCache.Store.Keyed
import Mathlib.Data.List.Induction

/-!
Walks whose visitor writes to the store that is walked over. A walk shows the entries as they were
when it started, each of them once, so in whatever order they come, a visitor may move them all or
remove them all.
-/
namespace GatewayCache

variable {κ V σ : Type}

/-! ### Calls of a visitor -/

/-- The entries that a lookup finds, in some order: each of them once, and no others. -/
structure Lists (order : List (κ × V)) (get? : κ → Option V) : Prop where
  once : (order.map (·.1)).Nodup
  entry : ∀ {k v}, (k, v) ∈ order ↔ get? k = some v

/-- What becomes of a state when a visitor is called with entries in the given order. -/
def callAll (visit : κ → V → σ → σ) (order : List (κ × V)) (state : σ) : σ :=
  order.foldl (fun state e => visit e.1 e.2 state) state

theorem callAll_concat (visit : κ → V → σ → σ) (order : List (κ × V)) (e : κ × V) (state : σ) :
    callAll visit (order ++ [e]) state = visit e.1 e.2 (callAll visit order state) :=
  List.foldl_concat ..

/-- The visitor that keeps a record of its calls beside what it does. -/
def recorded (visit : κ → V → σ → σ) (k : κ) (v : V) :
    σ × List (κ × V) → σ × List (κ × V)
  | (state, calls) => (visit k v state, calls ++ [(k, v)])

theorem callAll_recorded (visit : κ → V → σ → σ) (order : List (κ × V)) (state : σ) :
    callAll (recorded visit) order (state, []) = (callAll visit order state, order) := by
  induction order using List.reverseRecOn with
  | nil => rfl
  | append_singleton order e ih => rw [callAll_concat, callAll_concat, ih, recorded]

namespace IdMap

theorem lists_entries (m : IdMap V) : Lists m.entries m.get? where
  once := m.nodup_ids
  entry := get?_eq_some_iff.symm

end IdMap

namespace GroupedStore

theorem lists_entries (s : GroupedStore V) :
    Lists (s.entries.map fun e => ((e.1, e.2.1), e.2.2)) fun k => s.get? k.1 k.2 where
  once := by
    rw [List.map_map]
    exact s.nodup_keys_entries
  entry := by
    rintro ⟨g, id⟩ v
    refine Iff.trans ?_ (mem_entries (e := (g, id, v)))
    simp

end GroupedStore

namespace Store

variable {distance : Snowflake} {s t : Store V} {done : List (Snowflake × V)}

/-! ### Moving all entries -/

/-- A visitor that takes every value from its id and puts it under the id that is `distance` on. -/
def MovesBy (distance : Snowflake) (visit : Snowflake → V → Store V → Store V) : Prop :=
  ∀ id v t, visit id v t = (t.erase id).put (id + distance) v ∨
    visit id v t = (t.put (id + distance) v).erase id

theorem MovesBy.get? {visit : Snowflake → V → Store V → Store V} (moves : MovesBy distance visit)
    {id : Snowflake} (apart : id + distance ≠ id) (on : t.retains = true) (v : V) (k : Snowflake) :
    (visit id v t).get? k =
      if k = id + distance then some v else if k = id then none else t.get? k := by
  rcases moves id v t with h | h
  · rw [h, get?_put, get?_erase, retains_erase, on]
    simp only [true_and]
  · rw [h, get?_erase, get?_put, on]
    simp only [true_and]
    by_cases here : k = id
    · rw [if_pos here, if_pos here, if_neg (here ▸ apart.symm)]
    · rw [if_neg here, if_neg here]

theorem MovesBy.retains {visit : Snowflake → V → Store V → Store V}
    (moves : MovesBy distance visit) (id : Snowflake) (v : V) :
    (visit id v t).retains = t.retains := by
  rcases moves id v t with h | h <;> simp [h]

/-- No entry would move to the id of an entry. -/
def FreeAt (distance : Snowflake) (s : Store V) : Prop :=
  ∀ k v, s.get? k = some v → s.get? (k + distance) = none

/-- In `t` the entries in `done` have moved from where they are in `s`; the others have not. -/
structure Moved (distance : Snowflake) (s : Store V) (done : List (Snowflake × V)) (t : Store V) :
    Prop where
  retains : t.retains = s.retains
  get? : ∀ k, t.get? k =
    if k - distance ∈ done.map (·.1) then s.get? (k - distance)
    else if k ∈ done.map (·.1) then none else s.get? k

theorem Moved.step {visit : Snowflake → V → Store V → Store V} (moves : MovesBy distance visit)
    (free : FreeAt distance s) (entries : ∀ e ∈ done, s.get? e.1 = some e.2)
    (moved : Moved distance s done t) {id : Snowflake} {v : V} (here : s.get? id = some v) :
    Moved distance s (done ++ [(id, v)]) (visit id v t) := by
  have on : t.retains = true := by
    rw [moved.retains]
    by_contra off
    rw [get?_of_not_retains (Bool.eq_false_iff.2 off)] at here
    cases here
  -- A distance of zero would put every entry in the way of itself.
  have apart : id + distance ≠ id := by
    intro same
    have := free id v here
    rw [same, here] at this
    cases this
  refine ⟨(moves.retains id v).trans moved.retains, fun k => ?_⟩
  rw [moves.get? apart on, moved.get?]
  simp only [List.map_append, List.map_singleton, List.mem_append, List.mem_singleton]
  -- Nothing has moved to where the entry stands, as an entry from there would be in its way.
  have unreached : id - distance ∉ done.map (·.1) := by
    intro listed
    obtain ⟨e, member, same⟩ := List.mem_map.1 listed
    have := free e.1 e.2 (entries e member)
    rw [same, UInt64.sub_add_cancel, here] at this
    cases this
  by_cases target : k = id + distance
  · subst target
    rw [if_pos rfl, UInt64.add_sub_cancel, if_pos (.inr rfl), here]
  · have other : k - distance ≠ id := by
      rintro rfl
      exact target (UInt64.sub_add_cancel ..).symm
    rw [if_neg target]
    by_cases source : k = id
    · subst source
      simp [unreached, other]
    · simp only [if_neg source, or_iff_left other, or_iff_left source]

theorem moved_callAll {visit : Snowflake → V → Store V → Store V} (moves : MovesBy distance visit)
    (free : FreeAt distance s) (entries : ∀ e ∈ done, s.get? e.1 = some e.2) :
    Moved distance s done (callAll visit done s) := by
  -- The last call is one more step from where the calls before it have led.
  induction done using List.reverseRecOn with
  | nil => exact ⟨rfl, fun k => by simp [callAll]⟩
  | append_singleton done e ih =>
    have before : ∀ e ∈ done, s.get? e.1 = some e.2 := fun e member =>
      entries e (List.mem_append_left _ member)
    rw [callAll_concat]
    exact (ih before).step moves free before (entries e List.mem_concat_self)

/-- In `t` every entry stands `distance` on from where it stands in `s`, and there are no others. -/
structure IsShift (distance : Snowflake) (s t : Store V) : Prop where
  retains : t.retains = s.retains
  get? : ∀ k, t.get? k = s.get? (k - distance)
  entries : t.content.entries.Perm (s.content.entries.map fun e => (e.1 + distance, e.2))
  size : t.size = s.size

theorem isShift_of_get? (retains : t.retains = s.retains)
    (get? : ∀ k, t.get? k = s.get? (k - distance)) : IsShift distance s t := by
  have entries : t.content.entries.Perm
      (s.content.entries.map fun e => (e.1 + distance, e.2)) := by
    have unique (m : IdMap V) : m.entries.Nodup := m.nodup_ids.of_map _
    refine (List.perm_ext_iff_of_nodup (unique _) ((unique _).map ?_)).2 ?_
    · intro a b same
      obtain ⟨sameId, sameValue⟩ := Prod.mk.inj same
      exact Prod.ext ((UInt64.add_left_inj distance).1 sameId) sameValue
    · rintro ⟨k, v⟩
      rw [← IdMap.get?_eq_some_iff, List.mem_map]
      constructor
      · intro found
        refine ⟨(k - distance, v), IdMap.get?_eq_some_iff.1 ((get? k).symm.trans found), ?_⟩
        rw [UInt64.sub_add_cancel]
      · rintro ⟨e, member, same⟩
        cases same
        refine (get? _).trans ?_
        rw [UInt64.add_sub_cancel]
        exact IdMap.get?_eq_some_iff.2 member
  exact ⟨retains, get?, entries, by simpa [size, IdMap.size] using entries.length_eq⟩

theorem isShift_callAll {visit : Snowflake → V → Store V → Store V}
    (moves : MovesBy distance visit) (free : FreeAt distance s) {order : List (Snowflake × V)}
    (lists : Lists order s.get?) : IsShift distance s (callAll visit order s) := by
  have moved := moved_callAll moves free fun e member => lists.entry.1 member
  refine isShift_of_get? moved.retains fun k => ?_
  have absent {k : Snowflake} (unlisted : k ∉ order.map (·.1)) : s.get? k = none :=
    Option.eq_none_iff_forall_ne_some.2 fun v found =>
      unlisted (List.mem_map.2 ⟨(k, v), lists.entry.2 found, rfl⟩)
  rw [moved.get?]
  -- All entries are done: where nothing has moved to, nothing was to come from.
  split
  next => rfl
  next unlisted =>
    rw [absent unlisted]
    split
    next => rfl
    next here => exact absent here

end Store

/-! ### Removing a group -/

namespace GroupedStore

/-- The visitor that removes the entry of a group that it is called with. -/
def drain (g id : Snowflake) (_ : V) (t : GroupedStore V) : GroupedStore V := t.erase g id

theorem get?_callAll_drain (s : GroupedStore V) (g : Snowflake) (done : List (Snowflake × V))
    (k id : Snowflake) :
    (callAll (drain g) done s).get? k id =
      if k = g ∧ id ∈ done.map (·.1) then none else s.get? k id := by
  induction done using List.reverseRecOn with
  | nil => simp [callAll]
  | append_singleton done e ih =>
    rw [callAll_concat, drain, get?_erase, ih]
    simp only [List.map_append, List.map_singleton, List.mem_append, List.mem_singleton]
    grind

theorem retains_callAll_drain (s : GroupedStore V) (g : Snowflake) (done : List (Snowflake × V)) :
    (callAll (drain g) done s).retains = s.retains := by
  induction done using List.reverseRecOn with
  | nil => rfl
  | append_singleton done e ih => rw [callAll_concat, drain, retains_erase, ih]

theorem callAll_drain {s : GroupedStore V} {g : Snowflake} {order : List (Snowflake × V)}
    (lists : Lists order (s.get? g)) : callAll (drain g) order s = s.eraseGroup g := by
  refine ext_get? ?_ fun k id => ?_
  · rw [retains_callAll_drain, retains_eraseGroup]
  · rw [get?_callAll_drain, get?_eraseGroup]
    by_cases here : k = g
    · subst here
      rw [if_pos rfl]
      split
      next => rfl
      next unlisted =>
        refine Option.eq_none_iff_forall_ne_some.2 fun v found => unlisted ⟨rfl, ?_⟩
        exact List.mem_map.2 ⟨(id, v), lists.entry.2 found, rfl⟩
    · simp [here]

end GroupedStore

/-! ### The visitors of all walks -/

/--
A visitor that writes to the store as it likes, and to a state of its own, is called once for each
entry that was there when the walk started, in the group of the walk if there is one, with the value
that it had then, and for nothing else. So in whatever order a walk goes, a visitor that moves what
it sees out of the way of all entries leaves each one moved, and one that removes what it sees of a
group leaves the store without this group.
-/
theorem walk_visits_snapshot {V τ : Type} :
    (∀ (s : Store V) (visit : Snowflake → V → Store V × τ → Store V × τ) (own : τ),
      ∃ calls, Lists calls s.get? ∧
        s.forEach (recorded visit) ((s, own), []) = (s.forEach visit (s, own), calls)) ∧
    (∀ (s : GroupedStore V) (own : τ)
      (visit : Snowflake → Snowflake → V → GroupedStore V × τ → GroupedStore V × τ),
      ∃ calls, Lists calls (fun k => s.get? k.1 k.2) ∧
        s.forEach (fun g id => recorded (fun k => visit k.1 k.2) (g, id)) ((s, own), []) =
          (s.forEach visit (s, own), calls)) ∧
    (∀ (s : GroupedStore V) (g : Snowflake) (own : τ)
      (visit : Snowflake → V → GroupedStore V × τ → GroupedStore V × τ),
      ∃ calls, Lists calls (s.get? g) ∧
        s.forEachIn g (recorded visit) ((s, own), []) = (s.forEachIn g visit (s, own), calls)) ∧
    (∀ (s : Store V) (distance : Snowflake) (visit : Snowflake → V → Store V → Store V),
      Store.MovesBy distance visit → s.FreeAt distance →
        Store.IsShift distance s (s.forEach visit s) ∧
          ∀ order, Lists order s.get? → Store.IsShift distance s (callAll visit order s)) ∧
    ∀ (s : GroupedStore V) (g : Snowflake),
      s.forEachIn g (GroupedStore.drain g) s = s.eraseGroup g ∧
        (∀ order, Lists order (s.get? g) →
          callAll (GroupedStore.drain g) order s = s.eraseGroup g) ∧
        (s.eraseGroup g).groupSize g = 0 ∧ ∀ h, h ≠ g → (s.eraseGroup g).group h = s.group h := by
  refine ⟨fun s visit own => ?_, fun s own visit => ?_, fun s g own visit => ?_,
    fun s distance visit moves free => ?_, fun s g => ?_⟩
  · exact ⟨_, s.content.lists_entries, callAll_recorded visit s.content.entries (s, own)⟩
  · refine ⟨_, s.lists_entries, ?_⟩
    have run := callAll_recorded (fun k => visit k.1 k.2)
      (s.entries.map fun e => ((e.1, e.2.1), e.2.2)) (s, own)
    simp only [callAll, List.foldl_map] at run
    exact run
  · exact ⟨_, (s.group g).lists_entries, callAll_recorded visit (s.group g).entries (s, own)⟩
  · have shift (order) (lists : Lists order s.get?) := Store.isShift_callAll moves free lists
    exact ⟨shift s.content.entries s.content.lists_entries, shift⟩
  · have drained (order) (lists : Lists order (s.get? g)) := GroupedStore.callAll_drain lists
    refine ⟨drained (s.group g).entries (s.group g).lists_entries, drained, ?_, fun h other => ?_⟩
    · have empty : (s.eraseGroup g).group g = ∅ := IdMap.ext_get? fun id =>
        (GroupedStore.get?_eraseGroup s g g id).trans (if_pos rfl)
      rw [GroupedStore.groupSize, empty]
      rfl
    · rw [GroupedStore.eraseGroup, GroupedStore.group_setGroup, if_neg fun both => other both.2]

/--
Two entries that move by three, one of them past the greatest id, in an order that is not that of
the ids; and a group of two entries that are removed.
-/
theorem walk_visits_snapshot_past_greatest :
    let s : Store String := ((Store.empty true).put 4 "a").put 18446744073709551615 "b"
    let move (id : Snowflake) (v : String) (t : Store String) := (t.put (id + 3) v).erase id
    let counted (id : Snowflake) (v : String) (t : Store String × Nat) := (move id v t.1, t.2 + 1)
    let order : List (Snowflake × String) := [(18446744073709551615, "b"), (4, "a")]
    let moved := callAll move order s
    let g : GroupedStore String :=
      (((GroupedStore.empty true).put 1 10 "a").put 1 11 "b").put 2 10 "c"
    let drained := g.forEachIn 1 (GroupedStore.drain 1) g
    moved.get? 2 = some "b" ∧ moved.get? 7 = some "a" ∧ moved.size = 2 ∧
      (∃ calls, (s.forEach (recorded counted) ((s, 0), [])).2 = calls ∧
        (4, "a") ∈ calls ∧ (7, "a") ∉ calls) ∧
      drained.groupSize 1 = 0 ∧ drained.get? 2 10 = some "c" := by
  intro s move counted order moved g drained
  obtain ⟨visits, -, -, moves, drains⟩ := walk_visits_snapshot (V := String) (τ := Nat)
  have content : s.content.entries = [(4, "a"), (18446744073709551615, "b")] := rfl
  have entry {k : Snowflake} {v : String} (found : s.get? k = some v) :
      (k, v) = (4, "a") ∨ (k, v) = (18446744073709551615, "b") := by
    have member := IdMap.get?_eq_some_iff.1 found
    rwa [content, List.mem_cons, List.mem_singleton] at member
  have free : s.FreeAt 3 := by
    intro k v found
    rcases entry found with same | same <;> cases same <;> rfl
  have lists : Lists order s.get? := by
    refine ⟨by decide, fun {k v} => ⟨fun member => ?_, fun found => ?_⟩⟩
    · rcases List.mem_pair.1 member with same | same <;> cases same <;> rfl
    · exact List.mem_pair.2 (entry found).symm
  have shift : Store.IsShift 3 s moved :=
    (moves s 3 move (fun _ _ _ => .inr rfl) free).2 order lists
  obtain ⟨calls, shown, run⟩ := visits s counted 0
  obtain ⟨whole, -, empty, -⟩ := drains g 1
  refine ⟨(shift.get? 2).trans rfl, (shift.get? 7).trans rfl, shift.size.trans rfl,
    ⟨calls, congrArg Prod.snd run, shown.entry.2 rfl, fun member => ?_⟩, ?_, ?_⟩
  · exact absurd (shown.entry.1 member) (by decide)
  · rw [← whole] at empty
    exact empty
  · exact congrArg (·.get? 2 10) whole

end GatewayCache
