import GatewayCache.Proofs.OverwritePrecedence
import Mathlib.Data.List.Induction

/-!
Overwrite lists as maps from targets to overwrites. A list that grew by upserts alone has every
target once; one that was read may repeat a target, and then its first entry is the one that is
looked up and the one that an upsert replaces.
-/
namespace GatewayCache

/-- The role or the member that an overwrite is for. -/
def Overwrite.target (o : Overwrite) : OverwriteKind × Snowflake := (o.kind, o.id)

theorem Overwrite.targets_iff_target {o : Overwrite} {kind : OverwriteKind} {id : Snowflake} :
    o.targets kind id ↔ o.target = (kind, id) := by
  rw [targets_iff, target, Prod.mk.injEq]

namespace Overwrites

variable {os kept : Overwrites} {new o : Overwrite} {kind : OverwriteKind} {id : Snowflake}

/-! ### One upsert -/

/-- How the entries of a list differ after an upsert of `new` from those before. -/
inductive Upserts (new : Overwrite) : List Overwrite → List Overwrite → Prop
  | appended {entries : List Overwrite} (absent : ∀ o ∈ entries, o.target ≠ new.target) :
      Upserts new entries (entries ++ [new])
  | replaced {before after : List Overwrite} {old : Overwrite} (same : old.target = new.target)
      (first : ∀ o ∈ before, o.target ≠ new.target) :
      Upserts new (before ++ old :: after) (before ++ new :: after)

theorem upserts (os : Overwrites) (new : Overwrite) :
    Upserts new os.entries (os.upsert new).entries := by
  have other {o : Overwrite} : ¬o.targets new.kind new.id ↔ o.target ≠ new.target :=
    not_congr Overwrite.targets_iff_target
  cases found : os.find? new.kind new.id with
  | none =>
    have absent : ∀ o ∈ os.entries, ¬o.targets new.kind new.id := List.find?_eq_none.1 found
    rw [entries_upsert_of_absent absent]
    exact .appended fun o member => other.1 (absent o member)
  | some old =>
    obtain ⟨before, after, entries, same, first⟩ := (os.isFirst_iff ..).2 found
    have same : old.targets new.kind new.id := Overwrite.targets_iff.2 same
    have first : ∀ o ∈ before, ¬o.targets new.kind new.id := fun o member targets =>
      first o member (Overwrite.targets_iff.1 targets)
    rw [entries_upsert_of_first entries same first, entries]
    exact .replaced (Overwrite.targets_iff_target.1 same) fun o member => other.1 (first o member)

theorem find?_upsert (os : Overwrites) (new : Overwrite) (kind : OverwriteKind) (id : Snowflake) :
    (os.upsert new).find? kind id =
      if (kind, id) = new.target then some new else os.find? kind id := by
  have step := os.upserts new
  simp only [find?]
  generalize os.entries = old, (os.upsert new).entries = entries at step
  -- No entry in front of the new one has its target, and of another target it hides nothing.
  by_cases here : (kind, id) = new.target
  · have wanted : new.targets kind id := Overwrite.targets_iff_target.2 here.symm
    have others {l : List Overwrite} (other : ∀ o ∈ l, o.target ≠ new.target) :
        l.find? (·.targets kind id) = none := by
      refine List.find?_eq_none.2 fun o member targets => other o member ?_
      rw [Overwrite.targets_iff_target.1 targets, here]
    rw [if_pos here]
    cases step with
    | appended absent => simp [others absent, wanted]
    | replaced same first => simp [others first, wanted]
  · have unwanted {o : Overwrite} (same : o.target = new.target) : o.targets kind id = false := by
      rw [Bool.eq_false_iff, ne_eq, Overwrite.targets_iff_target, same]
      exact Ne.symm here
    rw [if_neg here]
    cases step with
    | appended absent => simp [unwanted rfl]
    | replaced same first => simp [unwanted rfl, unwanted same]

namespace Upserts

variable {old entries : List Overwrite}

theorem map_target (step : Upserts new old entries) :
    entries.map Overwrite.target =
      if new.target ∈ old.map Overwrite.target then old.map Overwrite.target
      else old.map Overwrite.target ++ [new.target] := by
  cases step with
  | appended absent =>
    have fresh : new.target ∉ old.map Overwrite.target := by
      intro member
      obtain ⟨o, listed, same⟩ := List.mem_map.1 member
      exact absent o listed same
    rw [if_neg fresh, List.map_append, List.map_singleton]
  | replaced same first => simp [same]

theorem length_eq_succ_iff (step : Upserts new old entries) :
    entries.length = old.length + 1 ↔ ∀ o ∈ old, o.target ≠ new.target := by
  cases step with
  | appended absent => exact iff_of_true (by simp) absent
  | replaced same first =>
    exact iff_of_false (by simp) fun absent => absent _ List.mem_append_cons_self same

theorem length_eq_iff (step : Upserts new old entries) :
    entries.length = old.length ↔ ∃ o ∈ old, o.target = new.target := by
  cases step with
  | appended absent => exact iff_of_false (by simp) fun ⟨o, member, same⟩ => absent o member same
  | replaced same first => exact iff_of_true (by simp) ⟨_, List.mem_append_cons_self, same⟩

end Upserts

/-! ### A run of upserts -/

/-- The list that upserts alone make. -/
def ofUpserts (written : List Overwrite) : Overwrites := written.foldl upsert ∅

theorem ofUpserts_concat (written : List Overwrite) (new : Overwrite) :
    ofUpserts (written ++ [new]) = (ofUpserts written).upsert new := List.foldl_concat ..

/-- An item behind a list counts as a repetition if the list has it. -/
theorem eraseDups_concat {α : Type} [BEq α] [LawfulBEq α] (l : List α) (a : α) :
    (l ++ [a]).eraseDups = if a ∈ l then l.eraseDups else l.eraseDups ++ [a] := by
  rw [List.eraseDups_append, List.removeAll]
  by_cases again : a ∈ l
  · have none : [a].filter (fun b => !List.elem b l) = [] := by simp [again]
    rw [none, if_pos again, List.eraseDups_nil, List.append_nil]
  · have alone : [a].filter (fun b => !List.elem b l) = [a] := by simp [again]
    rw [alone, if_neg again, List.eraseDups_cons]
    rfl

/-- Targets stand where they came up first. -/
theorem map_target_ofUpserts (written : List Overwrite) :
    (ofUpserts written).entries.map Overwrite.target =
      (written.map Overwrite.target).eraseDups := by
  induction written using List.reverseRecOn with
  | nil => rfl
  | append_singleton written new ih =>
    rw [ofUpserts_concat, (upserts ..).map_target, ih, List.map_append, List.map_singleton,
      eraseDups_concat]
    simp only [List.mem_eraseDups]

theorem nodup_targets_ofUpserts (written : List Overwrite) :
    ((ofUpserts written).entries.map Overwrite.target).Nodup := by
  induction written using List.reverseRecOn with
  | nil => exact List.nodup_nil
  | append_singleton written new ih =>
    rw [ofUpserts_concat, (upserts ..).map_target]
    -- The targets stay as they are, or one that is not among them comes last.
    split
    next again => exact ih
    next fresh => exact List.nodup_append.2 ⟨ih, List.pairwise_singleton _ _, by grind⟩

/-- The last overwrite for a target is the one that is found. -/
theorem find?_ofUpserts (written : List Overwrite) (kind : OverwriteKind) (id : Snowflake) :
    (ofUpserts written).find? kind id = (written.filter (·.targets kind id)).getLast? := by
  induction written using List.reverseRecOn with
  | nil => rfl
  | append_singleton written new ih =>
    rw [ofUpserts_concat, find?_upsert, List.filter_append]
    split
    next here =>
      have wanted : new.targets kind id := Overwrite.targets_iff_target.2 here.symm
      simp [wanted]
    next elsewhere =>
      have unwanted : new.targets kind id = false := by
        rw [Bool.eq_false_iff, ne_eq, Overwrite.targets_iff_target]
        exact Ne.symm elsewhere
      simp [unwanted, ih]

/-! ### Lookups for permissions -/

/-- The overwrites that are found for `@everyone`, for the roles of a member and for the member. -/
def found (os : Overwrites) (guildId : Snowflake) (roleIds : List Snowflake) (userId : Snowflake) :
    Overwrites :=
  ⟨(guildId :: roleIds).filterMap os.role? ++ (os.member? userId).toList⟩

theorem target_of_find? (h : os.find? kind id = some o) : o.target = (kind, id) := by
  obtain ⟨-, -, -, ⟨rfl, rfl⟩, -⟩ := (os.isFirst_iff kind id o).2 h
  rfl

/-- A list of overwrites that are found in another one finds no others. -/
theorem find?_of_answers (answers : ∀ o ∈ kept.entries, os.find? o.kind o.id = some o)
    (complete : ∀ o, os.find? kind id = some o → o ∈ kept.entries) :
    kept.find? kind id = os.find? kind id := by
  have agrees {o : Overwrite} (h : kept.find? kind id = some o) : os.find? kind id = some o := by
    have target := target_of_find? h
    obtain ⟨rfl, rfl⟩ := Prod.mk.inj target
    exact answers o (List.mem_of_find?_eq_some h)
  -- What is found here is found there, and what is found there would be here.
  cases here : kept.find? kind id with
  | some o => exact (agrees here).symm
  | none =>
    refine (Option.eq_none_iff_forall_ne_some.2 fun o h => ?_).symm
    exact List.find?_eq_none.1 here o (complete o h)
      (Overwrite.targets_iff_target.2 (target_of_find? h))

theorem find?_found {guildId userId : Snowflake} {roleIds : List Snowflake}
    (concerned : Permissions.Concerns guildId userId roleIds kind id) :
    (os.found guildId roleIds userId).find? kind id = os.find? kind id := by
  refine find?_of_answers (fun o member => ?_) fun o h => ?_
  · have answer {kind : OverwriteKind} {id : Snowflake} (h : os.find? kind id = some o) :
        os.find? o.kind o.id = some o := by
      obtain ⟨rfl, rfl⟩ := Prod.mk.inj (target_of_find? h)
      exact h
    rcases List.mem_append.1 member with ofRole | own
    · obtain ⟨id, -, h⟩ := List.mem_filterMap.1 ofRole
      exact answer h
    · exact answer (Option.mem_toList.1 own)
  · cases kind with
    | role =>
      refine List.mem_append_left _ (List.mem_filterMap.2 ⟨id, ?_, h⟩)
      exact List.mem_cons.2 concerned
    | member =>
      obtain rfl : id = userId := concerned
      exact List.mem_append_right _ (Option.mem_toList.2 h)

/--
A list that upserts alone have made has each target once, in the order in which the targets came up
first, and finds for each one what was written last. An upsert on any list puts the overwrite in the
place of the first entry for its target, or behind all entries if there is none, and changes no
other lookup. On any list, what is looked up is the first entry for a target, and permissions in a
channel come from nothing else than what is found for the member's targets.
-/
theorem upsert_lastWrite :
    (∀ written : List Overwrite,
      let os := ofUpserts written
      (os.entries.map Overwrite.target).Nodup ∧
        os.entries.map Overwrite.target = (written.map Overwrite.target).eraseDups ∧
        (∀ id, os.role? id = (written.filter (·.targets .role id)).getLast?) ∧
        ∀ id, os.member? id = (written.filter (·.targets .member id)).getLast?) ∧
    (∀ (os : Overwrites) (new : Overwrite),
      let os' := os.upsert new
      Upserts new os.entries os'.entries ∧ os'.find? new.kind new.id = some new ∧
        (∀ kind id, (kind, id) ≠ new.target → os'.find? kind id = os.find? kind id) ∧
        (os'.entries.length = os.entries.length + 1 ↔ ∀ o ∈ os.entries, o.target ≠ new.target) ∧
        (os'.entries.length = os.entries.length ↔ ∃ o ∈ os.entries, o.target = new.target)) ∧
    ∀ os : Overwrites,
      (∀ id o, os.role? id = some o ↔ os.IsFirst .role id o) ∧
        (∀ id o, os.member? id = some o ↔ os.IsFirst .member id o) ∧
        ∀ (base : Permissions) (guildId : Snowflake) (roleIds : List Snowflake)
          (userId : Snowflake) (timedOut : Bool),
          base.inChannel guildId roleIds userId os timedOut =
            base.inChannel guildId roleIds userId (os.found guildId roleIds userId) timedOut := by
  refine ⟨fun written => ?_, fun os new => ?_, fun os => ?_⟩
  · refine ⟨nodup_targets_ofUpserts written, map_target_ofUpserts written, ?_, ?_⟩
    · exact find?_ofUpserts written .role
    · exact find?_ofUpserts written .member
  · intro os'
    have step : Upserts new os.entries os'.entries := os.upserts new
    refine ⟨step, ?_, fun kind id elsewhere => ?_, step.length_eq_succ_iff, step.length_eq_iff⟩
    · exact (os.find?_upsert ..).trans (if_pos rfl)
    · exact (os.find?_upsert ..).trans (if_neg elsewhere)
  · refine ⟨fun id o => ?_, fun id o => ?_, fun base guildId roleIds userId timedOut => ?_⟩
    · exact (os.isFirst_role_iff id o).symm
    · exact (os.isFirst_member_iff id o).symm
    · exact (Permissions.inChannel_of_concerned fun kind id => find?_found).symm

/--
A list that was read with two entries for a role and one for the member of the same id: an upsert
for the role replaces its first entry, and one for another member comes last.
-/
theorem upsert_lastWrite_of_repeated_target :
    let entry (kind : OverwriteKind) (id : Snowflake) (p : Permission) : Overwrite :=
      { id, kind, allow := .only p, deny := ∅ }
    let os : Overwrites := ⟨[entry .role 5 1, entry .member 5 2, entry .role 5 4]⟩
    let again := os.upsert (entry .role 5 6)
    let more := again.upsert (entry .member 7 8)
    let written := [entry .role 5 1, entry .member 5 2, entry .role 5 4]
    again.entries = [entry .role 5 6, entry .member 5 2, entry .role 5 4] ∧
      again.entries.length = os.entries.length ∧ again.role? 5 = some (entry .role 5 6) ∧
      again.member? 5 = os.member? 5 ∧ more.entries = again.entries ++ [entry .member 7 8] ∧
      more.entries.length = again.entries.length + 1 ∧
      (ofUpserts written).entries = [entry .role 5 4, entry .member 5 2] ∧
      (ofUpserts written).role? 5 = some (entry .role 5 4) ∧
      (∅ : Permissions).inChannel 1 [5] 7 more false = .only 6 ∪ .only 8 := by
  intro entry os again more written
  obtain ⟨ofWritten, ofAny, ofPermissions⟩ := upsert_lastWrite
  obtain ⟨-, finds, others, -, same⟩ := ofAny os (entry .role 5 6)
  obtain ⟨-, -, -, grows, -⟩ := ofAny again (entry .member 7 8)
  have channel := (ofPermissions more).2.2 ∅ 1 [5] 7 false
  refine ⟨rfl, same.2 ⟨_, List.mem_cons_self, rfl⟩, finds, others .member 5 (by decide), rfl,
    grows.2 (by decide), rfl, ((ofWritten written).2.2.1 5).trans rfl, channel.trans (by decide)⟩

end Overwrites

end GatewayCache
