import Mathlib.Data.List.Infix
import GatewayCache.Proofs.Session
import GatewayCache.Proofs.Transition

/-!
The member count of a guild, and when the current user joined it, while the guild is cached. Only
hydration knows the two; from then on users who join and leave are counted one by one, and a later
guild update can only bring a time of joining of its own.
-/
namespace GatewayCache

/-! ### What is counted -/

namespace Event

/-- The event puts a new guild in the place of a guild, or takes the guild away. -/
def replacesGuild (g : Snowflake) : Event → Bool
  | .guildCreate h => h.guild.id == g
  | .guildDelete r => r.id == g
  | _ => false

/-- A user joins the guild. -/
def joins (g : Snowflake) : Event → Bool
  | .guildMemberAdd m => m.guildId == g
  | _ => false

/-- A user leaves the guild. -/
def leaves (g : Snowflake) : Event → Bool
  | .guildMemberRemove r => r.guildId == g
  | _ => false

/-- The member count of the guild after the event; it stays between zero and the largest count. -/
def memberCount (g : Snowflake) (n : Nat) (e : Event) : Nat :=
  if e.joins g then min (n + 1) maxCount else if e.leaves g then n - 1 else n

/-- The time of joining that an update of the guild brings. -/
def joinedAt? (g : Snowflake) : Event → Option Timestamp
  | .guildUpdate u => if u.current.id = g then u.current.joinedAt else none
  | _ => none

variable {g : Snowflake}

/-- No event is both. -/
theorem leaves_of_joins {e : Event} (joins : e.joins g = true) : e.leaves g = false := by
  cases e
  case guildMemberAdd => rfl
  all_goals cases joins

/-! ### One event -/

/-- The member count changes in place, that of the named guild only. -/
theorem get?_modify_memberCount {s : Store Guild} {old : Guild} (cached : s.get? g = some old)
    (id : Snowflake) (f : UInt32 → UInt32) :
    ∃ new, (s.modify id fun guild => { guild with memberCount := f guild.memberCount }).get? g =
        some new ∧
      new.memberCount = (if g = id then f old.memberCount else old.memberCount) ∧
      new.joinedAt = old.joinedAt := by
  rw [Store.get?_modify, cached]
  by_cases here : g = id
  · simp only [if_pos here, Option.map_some]
    exact ⟨_, rfl, rfl, rfl⟩
  · simp only [if_neg here]
    exact ⟨old, rfl, rfl, rfl⟩

/-- A cached guild that no event replaces stays cached, and only what concerns it changes it. -/
theorem get?_onGuilds {s : Store Guild} {old : Guild} (cached : s.get? g = some old) {e : Event}
    (stays : e.replacesGuild g = false) :
    ∃ new, (e.onGuilds s).get? g = some new ∧
      new.memberCount.toNat = e.memberCount g old.memberCount.toNat ∧
      new.joinedAt = (e.joinedAt? g).or old.joinedAt := by
  have on : s.retains = true := by
    cases retains : s.retains with
    | true => rfl
    | false => simp [Store.get?_of_not_retains retains] at cached
  cases e
  case guildCreate h =>
    have other : g ≠ h.guild.id := Ne.symm (beq_eq_false_iff_ne.1 stays)
    have kept : (s.put h.guild.id h.guild).get? g = some old := by
      simp [Store.get?_put, other, cached]
    exact ⟨old, kept, rfl, rfl⟩
  case guildDelete r =>
    have other : g ≠ r.id := Ne.symm (beq_eq_false_iff_ne.1 stays)
    have kept : (s.erase r.id).get? g = some old := by simp [Store.get?_erase, other, cached]
    exact ⟨old, kept, rfl, rfl⟩
  case guildUpdate u =>
    by_cases here : u.current.id = g
    · subst here
      have changed : ((Event.guildUpdate u).onGuilds s).get? u.current.id =
          some (Cache.changedGuild (some old) u.current) := by
        simp [onGuilds, cached, Store.get?_put, on]
      refine ⟨_, changed, rfl, ?_⟩
      rw [joinedAt?, if_pos rfl]
      exact Option.orElse_eq_or
    · have kept : ((Event.guildUpdate u).onGuilds s).get? g = some old := by
        simp [onGuilds, Store.get?_put, Ne.symm here, cached]
      refine ⟨old, kept, rfl, ?_⟩
      rw [joinedAt?, if_neg here, Option.none_or]
  case guildMemberAdd m =>
    obtain ⟨new, kept, counted, joined⟩ := get?_modify_memberCount cached m.guildId countUp
    refine ⟨new, kept, ?_, joined⟩
    by_cases here : m.guildId = g
    · simp [counted, memberCount, joins, here]
    · simp [counted, memberCount, joins, leaves, here, Ne.symm here]
  case guildMemberRemove r =>
    obtain ⟨new, kept, counted, joined⟩ := get?_modify_memberCount cached r.guildId (countDown 1)
    refine ⟨new, kept, ?_, joined⟩
    by_cases here : r.guildId = g
    · simp [counted, memberCount, joins, leaves, here]
    · simp [counted, memberCount, joins, leaves, here, Ne.symm here]
  all_goals exact ⟨old, cached, rfl, rfl⟩

/-! ### Counting over a run -/

/--
Where never more users have left than were there, and there is room for all who join, what is
counted is who is there.
-/
theorem foldl_memberCount (run : List (Timestamp × Event)) (n : Nat)
    (balanced : ∀ before, before <+: run →
      before.countP (·.2.leaves g) ≤ n + before.countP (·.2.joins g))
    (room : n + run.countP (·.2.joins g) ≤ maxCount) :
    run.foldl (fun n x => x.2.memberCount g n) n + run.countP (·.2.leaves g) =
      n + run.countP (·.2.joins g) := by
  induction run generalizing n with
  | nil => rfl
  | cons x run ih =>
    -- The prefixes of the rest, with this event before them, are prefixes of the run.
    have later (before : List (Timestamp × Event)) (short : before <+: run) :=
      balanced (x :: before) ((List.prefix_cons_inj x).2 short)
    have first := balanced [x] (List.prefix_append [x] run)
    simp only [List.countP_cons, List.countP_nil, Nat.zero_add] at later first room ⊢
    rw [List.foldl_cons]
    cases joins : x.2.joins g with
    | true =>
      have leaves := leaves_of_joins joins
      simp only [joins, leaves, if_true, Bool.false_eq_true, if_false] at later room ⊢
      have counted : x.2.memberCount g n = n + 1 := by
        rw [memberCount, if_pos joins, Nat.min_eq_left (by omega)]
      have rest := ih (n + 1) (fun before short => by have := later before short; omega) (by omega)
      rw [counted]
      omega
    | false =>
      cases leaves : x.2.leaves g with
      | true =>
        simp only [joins, leaves, if_true, Bool.false_eq_true, if_false] at later first room ⊢
        have counted : x.2.memberCount g n = n - 1 := by simp [memberCount, joins, leaves]
        have rest := ih (n - 1) (fun before short => by have := later before short; omega)
          (by omega)
        rw [counted]
        omega
      | false =>
        simp only [joins, leaves, Bool.false_eq_true, if_false] at later room ⊢
        have counted : x.2.memberCount g n = n := by simp [memberCount, joins, leaves]
        rw [counted]
        exact ih n later room

end Event

/-! ### Runs -/

namespace Cache

variable {g : Snowflake}

/-- A cached guild that no event of a run replaces stays cached, and each event counts in turn. -/
theorem get?_guilds_applyAll {c : Cache} {start : Guild} (cached : c.guilds.get? g = some start)
    {run : List (Timestamp × Event)} (stays : ∀ x ∈ run, x.2.replacesGuild g = false) :
    ∃ last, (c.applyAll run).guilds.get? g = some last ∧
      last.memberCount.toNat =
        run.foldl (fun n x => x.2.memberCount g n) start.memberCount.toNat ∧
      last.joinedAt = (run.reverse.findSome? (·.2.joinedAt? g)).or start.joinedAt := by
  induction run generalizing c start with
  | nil => exact ⟨start, cached, rfl, rfl⟩
  | cons x run ih =>
    obtain ⟨here, rest⟩ := List.forall_mem_cons.1 stays
    obtain ⟨next, found, counted, joined⟩ := Event.get?_onGuilds cached here
    have stored : (c.apply x.1 x.2).1.guilds.get? g = some next := by
      rw [fst_apply]
      exact found
    obtain ⟨last, kept, count, since⟩ := ih stored rest
    refine ⟨last, kept, ?_, ?_⟩
    · rw [count, counted, List.foldl_cons]
    · rw [since, joined, List.reverse_cons, List.findSome?_append, List.findSome?_singleton,
        Option.or_assoc]

/--
While no event replaces a cached guild or takes it away, it stays cached. Its member count is what
it was, one more for each user who joins and one less for each who leaves, within bounds, and it is
from no other event. The current user joined when the last guild update says so that says it, or
else when it was known before. If never more users have left than joined, and there is room for all
who join, the count is exact.
-/
theorem memberCount_applyAll (c : Cache) (g : Snowflake) (start : Guild)
    (cached : c.guilds.get? g = some start) (run : List (Timestamp × Event))
    (stays : ∀ x ∈ run, x.2.replacesGuild g = false) :
    ∃ last, (c.applyAll run).guilds.get? g = some last ∧
      last.memberCount.toNat =
        run.foldl (fun n x => x.2.memberCount g n) start.memberCount.toNat ∧
      last.joinedAt = (run.reverse.findSome? (·.2.joinedAt? g)).or start.joinedAt ∧
      ((∀ before, before <+: run →
          before.countP (·.2.leaves g) ≤ before.countP (·.2.joins g)) →
        start.memberCount.toNat + run.countP (·.2.joins g) < UInt32.size →
        last.memberCount.toNat =
          start.memberCount.toNat + run.countP (·.2.joins g) - run.countP (·.2.leaves g)) := by
  obtain ⟨last, kept, count, since⟩ := get?_guilds_applyAll cached stays
  refine ⟨last, kept, count, since, fun balanced room => ?_⟩
  have exact_count := Event.foldl_memberCount run start.memberCount.toNat
    (fun before short => Nat.le_add_left_of_le (balanced before short)) (Nat.le_pred_of_lt room)
  rw [count, ← exact_count, Nat.add_sub_cancel]

/-- Two users join and one leaves; the count that an update brings is not taken over. -/
theorem memberCount_applyAll_of_update :
    let guild : Guild := { id := 1, name := "", ownerId := 9, memberCount := 2 }
    let update : Guild := { guild with memberCount := 7, joinedAt := some .epoch }
    let member (g : Snowflake) : Member := { guildId := g, user := { id := 9, username := "" } }
    let c := session .all [.handle .epoch (.guildCreate { guild })]
    let run : List (Timestamp × Event) := [
      (.epoch, .guildMemberAdd (member 1)), (.epoch, .guildUpdate { current := update }),
      (.epoch, .guildMemberAdd (member 3)), (.epoch, .guildMemberAdd (member 1)),
      (.epoch, .guildMemberRemove ⟨1, (member 1).user, none⟩)]
    ∃ last, (c.applyAll run).guilds.get? 1 = some last ∧ last.memberCount.toNat = 2 + 2 - 1 ∧
      last.joinedAt = some .epoch := by
  intro guild update member c run
  have stays : ∀ x ∈ run, x.2.replacesGuild 1 = false := by decide
  have balanced : ∀ before ∈ run.inits,
      before.countP (·.2.leaves 1) ≤ before.countP (·.2.joins 1) := by decide
  obtain ⟨last, kept, -, since, count⟩ := memberCount_applyAll c 1 guild rfl run stays
  have counted := count (fun before short => balanced before ((List.mem_inits before run).2 short))
    (by decide)
  exact ⟨last, kept, counted, since⟩

end Cache

end GatewayCache
