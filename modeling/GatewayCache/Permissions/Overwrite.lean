import GatewayCache.Permissions.Basic
import GatewayCache.Snowflake

/-! Channel overwrites: what a channel grants or takes from one role or one member. -/
namespace GatewayCache

/-- What an overwrite is for. -/
inductive OverwriteKind where
  | role
  | member
deriving DecidableEq

/-- A channel's adjustment for one role or one member. -/
structure Overwrite where
  id : Snowflake
  kind : OverwriteKind
  allow : Permissions
  deny : Permissions
deriving DecidableEq

/-- Whether an overwrite is for the given target. -/
def Overwrite.targets (o : Overwrite) (kind : OverwriteKind) (id : Snowflake) : Bool :=
  o.kind == kind && o.id == id

theorem Overwrite.targets_iff {o : Overwrite} {kind : OverwriteKind} {id : Snowflake} :
    o.targets kind id = true ↔ o.kind = kind ∧ o.id = id := by
  rw [targets, Bool.and_eq_true, beq_iff_eq, beq_iff_eq]

/-- The overwrites of a channel, in the order of the channel's list. -/
structure Overwrites where
  entries : List Overwrite
deriving DecidableEq

namespace Overwrites

def empty : Overwrites := ⟨[]⟩

instance : EmptyCollection Overwrites := ⟨empty⟩
instance : Inhabited Overwrites := ⟨empty⟩

/-- The first overwrite for a target. -/
def find? (os : Overwrites) (kind : OverwriteKind) (id : Snowflake) : Option Overwrite :=
  os.entries.find? (·.targets kind id)

def role? (os : Overwrites) (id : Snowflake) : Option Overwrite := os.find? .role id

def member? (os : Overwrites) (id : Snowflake) : Option Overwrite := os.find? .member id

private def replaceFirst (new : Overwrite) : List Overwrite → List Overwrite
  | [] => [new]
  | old :: rest =>
    if old.targets new.kind new.id then new :: rest else old :: replaceFirst new rest

/-- Replaces the first overwrite for the same target, or appends a new one. -/
def upsert (os : Overwrites) (new : Overwrite) : Overwrites := ⟨replaceFirst new os.entries⟩

theorem entries_upsert_of_absent {os : Overwrites} {new : Overwrite}
    (absent : ∀ o ∈ os.entries, ¬o.targets new.kind new.id) :
    (os.upsert new).entries = os.entries ++ [new] := by
  obtain ⟨entries⟩ := os
  simp only [upsert]
  induction entries with
  | nil => rfl
  | cons o rest ih =>
    obtain ⟨other, others⟩ := List.forall_mem_cons.1 absent
    rw [replaceFirst, if_neg other, ih others, List.cons_append]

theorem entries_upsert_of_first {os : Overwrites} {new old : Overwrite}
    {before after : List Overwrite} (entries : os.entries = before ++ old :: after)
    (same : old.targets new.kind new.id) (first : ∀ o ∈ before, ¬o.targets new.kind new.id) :
    (os.upsert new).entries = before ++ new :: after := by
  simp only [upsert, entries]
  clear entries
  induction before with
  | nil => rw [List.nil_append, replaceFirst, if_pos same, List.nil_append]
  | cons o rest ih =>
    obtain ⟨other, others⟩ := List.forall_mem_cons.1 first
    rw [List.cons_append, replaceFirst, if_neg other, ih others, List.cons_append]

end Overwrites

end GatewayCache
