import GatewayCache.Proofs.SpelledNames
import GatewayCache.Retention
import Mathlib.Data.Set.Insert

/-!
Names of categories as they are read: which set each one stands for, and what a list of them is
read as.
-/
namespace GatewayCache

open Text (Spells SameWord lowerAscii trim)

/-! ### Categories and their bits -/

namespace Category

theorem mem_all (c : Category) : c ∈ all := by cases c <;> decide

theorem bit_lt (c : Category) : c.bit < 12 := by cases c <;> decide

theorem bit_inj {c d : Category} : c.bit = d.bit ↔ c = d := by
  have every : ∀ a ∈ all, ∀ b ∈ all, a.bit = b.bit → a = b := by decide
  exact ⟨every c c.mem_all d d.mem_all, congrArg bit⟩

theorem exists_bit_eq {n : Nat} (h : n < 12) : ∃ c : Category, c.bit = n := by
  have every : ∀ i : Fin 12, ∃ c ∈ all, c.bit = i := by decide
  obtain ⟨c, -, eq⟩ := every ⟨n, h⟩
  exact ⟨c, eq⟩

theorem lowerAscii_name (c : Category) : lowerAscii c.name = c.name := by cases c <;> decide

theorem trim_name (c : Category) : trim c.name = c.name := by cases c <;> decide

theorem name_ne_empty (c : Category) : c.name ≠ "" := by cases c <;> decide

theorem comma_notMem_name (c : Category) : ',' ∉ c.name.toList := by cases c <;> decide

end Category

namespace Retention

theorem ext_keeps {a b : Retention} (same : ∀ c, a.keeps c = b.keeps c) : a = b := by
  cases a
  cases b
  congr
  apply BitVec.eq_of_getLsbD_eq
  intro n lt
  obtain ⟨c, rfl⟩ := Category.exists_bit_eq lt
  exact same c

@[simp] theorem keeps_all (c : Category) : all.keeps c = true := by
  rw [keeps, all, BitVec.getLsbD_allOnes, decide_eq_true c.bit_lt]

@[simp] theorem keeps_none (c : Category) : none.keeps c = false := by
  simp [keeps, none]

@[simp] theorem keeps_only (c d : Category) : (only c).keeps d = decide (c = d) := by
  simp [keeps, only, c.bit_lt, Category.bit_inj]

@[simp] theorem keeps_union (a b : Retention) (c : Category) :
    (a ∪ b).keeps c = (a.keeps c || b.keeps c) :=
  BitVec.getLsbD_or

/-! ### One name -/

/-- The set that a text stands for: all categories, none of them, or the one that it names. -/
inductive Stands (text : String) : Set Category → Prop
  | all (h : Spells text "all") : Stands text Set.univ
  | none (h : Spells text "none") : Stands text ∅
  | category (c : Category) (h : Spells text c.name) : Stands text {c}

theorem spells_all {text : String} : Spells text "all" ↔ lowerAscii (trim text) = "all" :=
  Text.spells_iff (by decide)

theorem spells_none {text : String} : Spells text "none" ↔ lowerAscii (trim text) = "none" :=
  Text.spells_iff (by decide)

theorem spells_name {text : String} {c : Category} :
    Spells text c.name ↔ lowerAscii (trim text) = c.name := by
  rw [Text.spells_iff c.trim_name, c.lowerAscii_name]

/-- Two texts that spell one word stand for the same sets. -/
theorem Stands.respell {text text' : String} {set : Set Category} (h : Stands text set)
    (respelled : SameWord text text') : Stands text' set := by
  obtain ⟨word, spells, spells'⟩ := respelled
  have same : lowerAscii (trim text') = lowerAscii (trim text) :=
    spells'.lowerAscii_trim_eq.trans spells.lowerAscii_trim_eq.symm
  cases h with
  | all h => exact .all (spells_all.2 (same.trans (spells_all.1 h)))
  | none h => exact .none (spells_none.2 (same.trans (spells_none.1 h)))
  | category c h => exact .category c (spells_name.2 (same.trans (spells_name.1 h)))

theorem find?_name (c : Category) : Category.all.find? (·.name = c.name) = some c := by
  cases c <;> decide

theorem parse?_of_stands {text : String} {set : Set Category} (h : Stands text set) :
    ∃ kept, parse? text = some kept ∧ ∀ c, kept.keeps c ↔ c ∈ set := by
  cases h with
  | all h => exact ⟨Retention.all, by simp [parse?, spells_all.1 h], by simp⟩
  | none h => exact ⟨Retention.none, by simp [parse?, spells_none.1 h], by simp⟩
  | category c h =>
    -- No category is called by one of the two special words, which are tried first.
    have special : c.name ≠ "all" ∧ c.name ≠ "none" := by cases c <;> decide
    refine ⟨only c, ?_, by simp [eq_comm]⟩
    simp only [parse?, spells_name.1 h, special, if_false, find?_name, Option.map_some]

theorem stands_of_parse? {text : String} {kept : Retention} (h : parse? text = some kept) :
    Stands text {c | kept.keeps c} := by
  simp only [parse?] at h
  split at h
  next word =>
    cases h
    simpa [Set.ofPred_true] using Stands.all (spells_all.2 word)
  next =>
    split at h
    next word =>
      cases h
      simpa using Stands.none (spells_none.2 word)
    next =>
      obtain ⟨c, found, rfl⟩ := Option.map_eq_some_iff.1 h
      have word : c.name = lowerAscii (trim text) := by simpa using List.find?_some found
      simpa [Set.ofPred_eq_eq_singleton'] using Stands.category c (spells_name.2 word.symm)

theorem parse?_eq_none {text : String} : parse? text = Option.none ↔ ∀ set, ¬Stands text set := by
  constructor
  · intro unknown set stands
    obtain ⟨kept, known, -⟩ := parse?_of_stands stands
    rw [unknown] at known
    cases known
  · intro unknown
    cases read : parse? text with
    | none => rfl
    | some kept => exact absurd (stands_of_parse? read) (unknown _)

/-- A text that stands for a set stands for no other. -/
theorem Stands.unique {text : String} {a b : Set Category} (ha : Stands text a)
    (hb : Stands text b) : a = b := by
  obtain ⟨kept, read, keeps_a⟩ := parse?_of_stands ha
  obtain ⟨kept', read', keeps_b⟩ := parse?_of_stands hb
  obtain rfl : kept = kept' := Option.some.inj (read.symm.trans read')
  ext c
  rw [← keeps_a, ← keeps_b]

/-! ### A list of names -/

/-- How a list of names is read: as the union of the sets, or as its first unknown name. -/
inductive Reads (names : List String) : Except String Retention → Prop
  | known (kept : Retention) (known : ∀ name ∈ names, ∃ set, Stands name set)
      (union : ∀ c, kept.keeps c ↔ ∃ name ∈ names, ∃ set, Stands name set ∧ c ∈ set) :
      Reads names (.ok kept)
  | unknown (before : List String) (bad : String) (after : List String)
      (first : names = before ++ bad :: after)
      (known : ∀ name ∈ before, ∃ set, Stands name set)
      (unknown : ∀ set, ¬Stands bad set) : Reads names (.error bad)

theorem none_union (a : Retention) : none ∪ a = a := ext_keeps (by simp)

/-- What is kept before the first name is kept at the end, and makes no other difference. -/
theorem foldlM_union {step : Retention → String → Except String Retention}
    (known : ∀ kept name more, parse? name = some more → step kept name = .ok (kept ∪ more))
    (unknown : ∀ kept name, parse? name = Option.none → step kept name = .error name)
    (names : List String) (kept : Retention) :
    names.foldlM step kept = (names.foldlM step none).map (kept ∪ ·) := by
  have union_none (a : Retention) : a ∪ none = a := ext_keeps (by simp)
  have union_assoc (a b c : Retention) : a ∪ b ∪ c = a ∪ (b ∪ c) :=
    ext_keeps (by simp [Bool.or_assoc])
  induction names generalizing kept with
  | nil => exact congrArg Except.ok (union_none kept).symm
  | cons name names ih =>
    rw [List.foldlM_cons, List.foldlM_cons]
    cases read : parse? name with
    | none =>
      rw [unknown _ _ read, unknown _ _ read]
      rfl
    | some more =>
      rw [known _ _ _ read, known _ _ _ read]
      change names.foldlM step (kept ∪ more) = (names.foldlM step (none ∪ more)).map _
      rw [ih, ih (none ∪ more), none_union]
      cases names.foldlM step none with
      | error bad => rfl
      | ok rest => exact congrArg Except.ok (union_assoc kept more rest)

theorem parseAll_cons_of_known {name : String} {more : Retention} (h : parse? name = some more)
    (names : List String) : parseAll (name :: names) = (parseAll names).map (more ∪ ·) := by
  rw [parseAll, List.foldlM_cons, h]
  change List.foldlM _ (none ∪ more) names = _
  rw [none_union]
  apply foldlM_union
  · intro kept name more read
    rw [read]
  · intro kept name read
    rw [read]

theorem parseAll_cons_of_unknown {name : String} (h : parse? name = Option.none)
    (names : List String) : parseAll (name :: names) = .error name := by
  rw [parseAll, List.foldlM_cons, h]
  rfl

theorem reads_parseAll (names : List String) : Reads names (parseAll names) := by
  induction names with
  | nil => exact .known none (by simp) (by simp)
  | cons name names ih =>
    cases read : parse? name with
    | none =>
      rw [parseAll_cons_of_unknown read]
      exact .unknown [] name names rfl (by simp) (parse?_eq_none.1 read)
    | some more =>
      have stands := stands_of_parse? read
      rw [parseAll_cons_of_known read]
      generalize parseAll names = rest at ih ⊢
      cases ih with
      | known kept known union =>
        refine .known (more ∪ kept) (List.forall_mem_cons.2 ⟨⟨_, stands⟩, known⟩) fun c => ?_
        rw [keeps_union, Bool.or_eq_true, union, List.exists_mem_cons_iff]
        apply or_congr_left
        constructor
        · exact fun keeps => ⟨_, stands, keeps⟩
        · -- Whichever set the first name is said to stand for, it is the one that was read.
          rintro ⟨set, stands', mem⟩
          rwa [stands'.unique stands] at mem
      | unknown before bad after first known unknown =>
        exact .unknown (name :: before) bad after (congrArg (name :: ·) first)
          (List.forall_mem_cons.2 ⟨⟨_, stands⟩, known⟩) unknown

theorem parseAll_of_reads {names : List String} {outcome : Except String Retention}
    (h : Reads names outcome) : parseAll names = outcome := by
  cases h with
  | known kept known union =>
    have reads := reads_parseAll names
    revert reads
    generalize parseAll names = outcome
    intro reads
    cases reads with
    | known kept' _ union' =>
      -- Two unions of the same sets keep the same categories.
      congr
      exact ext_keeps fun c => by rw [Bool.eq_iff_iff, union, union']
    | unknown before bad after first _ unknown =>
      obtain ⟨set, stands⟩ := known bad (by simp [first])
      exact absurd stands (unknown set)
  | unknown before bad after first known unknown =>
    subst first
    induction before with
    | nil => exact parseAll_cons_of_unknown (parse?_eq_none.2 unknown) after
    | cons name before ih =>
      obtain ⟨⟨set, stands⟩, known⟩ := List.forall_mem_cons.1 known
      obtain ⟨more, read, -⟩ := parse?_of_stands stands
      rw [List.cons_append, parseAll_cons_of_known read, ih known]
      rfl

/-- A list of names is read as the relation says, and in no other way. -/
theorem parseAll_eq_iff {names : List String} {outcome : Except String Retention} :
    parseAll names = outcome ↔ Reads names outcome :=
  ⟨fun eq => eq ▸ reads_parseAll names, parseAll_of_reads⟩

theorem exists_parseAll_iff (names : List String) :
    (∃ kept, parseAll names = .ok kept) ↔ ∀ name ∈ names, ∃ set, Stands name set := by
  constructor
  · rintro ⟨kept, read⟩
    cases parseAll_eq_iff.1 read with
    | known _ known _ => exact known
  · intro known
    cases read : parseAll names with
    | ok kept => exact ⟨kept, rfl⟩
    | error bad =>
      cases parseAll_eq_iff.1 read with
      | unknown before _ after first _ unknown =>
        obtain ⟨set, stands⟩ := known bad (by simp [first])
        exact absurd stands (unknown set)

theorem Reads.of_respelled {names names' : List String} {kept : Retention}
    (there : ∀ name ∈ names, ∃ name' ∈ names', SameWord name name')
    (back : ∀ name' ∈ names', ∃ name ∈ names, SameWord name' name)
    (h : Reads names (.ok kept)) : Reads names' (.ok kept) := by
  cases h with
  | known _ known union =>
    refine .known kept ?_ fun c => (union c).trans ⟨?_, ?_⟩
    · intro name' mem'
      obtain ⟨name, mem, same⟩ := back name' mem'
      obtain ⟨set, stands⟩ := known name mem
      exact ⟨set, stands.respell same.symm⟩
    · rintro ⟨name, mem, set, stands, inSet⟩
      obtain ⟨name', mem', same⟩ := there name mem
      exact ⟨name', mem', set, stands.respell same, inSet⟩
    · rintro ⟨name', mem', set, stands, inSet⟩
      obtain ⟨name, mem, same⟩ := back name' mem'
      exact ⟨name, mem, set, stands.respell same, inSet⟩

/-- The order of names, how often each occurs, its case and the white space around it are free. -/
theorem parseAll_of_respelled {names names' : List String} {kept : Retention}
    (there : ∀ name ∈ names, ∃ name' ∈ names', SameWord name name')
    (back : ∀ name' ∈ names', ∃ name ∈ names, SameWord name' name) :
    parseAll names = .ok kept ↔ parseAll names' = .ok kept := by
  rw [parseAll_eq_iff, parseAll_eq_iff]
  exact ⟨Reads.of_respelled there back, Reads.of_respelled back there⟩

/-! ### The names of a set -/

theorem mem_names {kept : Retention} {name : String} :
    name ∈ kept.names ↔ ∃ c, kept.keeps c ∧ c.name = name := by
  simp [names, Category.mem_all]

/-- The names of a set, however they are spelled and in whichever order, are read as that set. -/
theorem parseAll_names {kept : Retention} {names : List String}
    (there : ∀ name ∈ names, ∃ c, kept.keeps c ∧ Spells name c.name)
    (back : ∀ c, kept.keeps c → ∃ name ∈ names, Spells name c.name) :
    parseAll names = .ok kept := by
  refine parseAll_eq_iff.2 (.known kept ?_ fun c => ⟨?_, ?_⟩)
  · intro name mem
    obtain ⟨c, -, spells⟩ := there name mem
    exact ⟨{c}, .category c spells⟩
  · intro keeps
    obtain ⟨name, mem, spells⟩ := back c keeps
    exact ⟨name, mem, {c}, .category c spells, rfl⟩
  · rintro ⟨name, mem, set, stands, inSet⟩
    obtain ⟨d, keeps, spells⟩ := there name mem
    rw [stands.unique (.category d spells)] at inSet
    rwa [Set.mem_singleton_iff.1 inSet]

end Retention

end GatewayCache
