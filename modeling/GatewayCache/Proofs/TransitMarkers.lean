import GatewayCache.Proofs.Transition

/-!
Guilds in transition, as a run of events leaves them. A guild waits for its hydration from the
session that announces it, and is unavailable from an outage on, until it is hydrated or goes for
good.
-/
namespace GatewayCache

/-! ### What sets and clears the markers -/

namespace Event

/-- A session starts, and the guild is among those it announces. -/
def announces (g : Snowflake) : Event → Bool
  | .ready e => e.guilds.any (·.id == g)
  | _ => false

/-- The guild goes away in an outage. -/
def losesInOutage (g : Snowflake) : Event → Bool
  | .guildDelete r => r.id == g && r.unavailable
  | _ => false

/-- The guild is hydrated, or goes away for good. -/
def settles (g : Snowflake) : Event → Bool
  | .guildCreate h => h.guild.id == g
  | .guildDelete r => r.id == g && !r.unavailable
  | _ => false

variable {g : Snowflake}

/-- An event marks a guild as unready, or clears the marker, or leaves it as it is. -/
theorem contains_onUnready (e : Event) (s : IdSet) :
    (e.onUnready s).contains g = (e.announces g || (s.contains g && !e.settles g)) := by
  cases e
  case ready r =>
    refine (Cache.contains_foldl_set r.guilds s g).trans ?_
    simp only [announces, settles, Bool.not_false, Bool.and_true]
  case guildCreate h =>
    refine (s.contains_set_eq h.guild.id false g).trans ?_
    simp [announces, settles]
  case guildDelete r =>
    obtain ⟨id, unavailable, _⟩ := r
    cases unavailable with
    | true => simp [onUnready, announces, settles]
    | false =>
      refine (s.contains_set_eq id false g).trans ?_
      simp [announces, settles]
  all_goals simp [onUnready, announces, settles]

/-- An event marks a guild as unavailable, or clears the marker, or leaves it as it is. -/
theorem contains_onUnavailable (e : Event) (s : IdSet) :
    (e.onUnavailable s).contains g = (e.losesInOutage g || (s.contains g && !e.settles g)) := by
  cases e
  case guildCreate h =>
    refine (s.contains_set_eq h.guild.id false g).trans ?_
    simp [losesInOutage, settles]
  case guildDelete r =>
    obtain ⟨id, unavailable, _⟩ := r
    refine (s.contains_set_eq id unavailable g).trans ?_
    simp only [losesInOutage, settles]
    cases id == g <;> cases unavailable <;> simp
  all_goals simp [onUnavailable, losesInOutage, settles]

/-- Some event of a run sets a marker, and no later one clears it. -/
def LastSets (sets clears : Event → Bool) (run : List (Timestamp × Event)) : Prop :=
  ∃ before x after, run = before ++ x :: after ∧ sets x.2 = true ∧ ∀ y ∈ after, clears y.2 = false

/-- The event that sets the marker is the first of the run or comes later. -/
theorem lastSets_cons {sets clears : Event → Bool} {x : Timestamp × Event}
    {run : List (Timestamp × Event)} :
    LastSets sets clears (x :: run) ↔
      (sets x.2 = true ∧ ∀ y ∈ run, clears y.2 = false) ∨ LastSets sets clears run := by
  constructor
  · rintro ⟨before, z, after, split, set, kept⟩
    cases before with
    | nil =>
      obtain ⟨rfl, rfl⟩ := List.cons.inj split
      exact .inl ⟨set, kept⟩
    | cons _ before =>
      obtain ⟨rfl, rest⟩ := List.cons.inj split
      exact .inr ⟨before, z, after, rest, set, kept⟩
  · rintro (⟨set, kept⟩ | ⟨before, z, after, rfl, set, kept⟩)
    · exact ⟨[], x, run, rfl, set, kept⟩
    · exact ⟨x :: before, z, after, rfl, set, kept⟩

end Event

/-! ### Runs -/

namespace Cache

/--
A marker that each event sets, clears or leaves alone is set after a run if it was set before and
no event clears it, or if an event sets it and no later one clears it.
-/
theorem marked_applyAll (marked : Cache → Bool) (sets clears : Event → Bool)
    (step : ∀ (now : Timestamp) (c : Cache) (e : Event),
      marked (c.apply now e).1 = (sets e || (marked c && !clears e)))
    (c : Cache) (run : List (Timestamp × Event)) :
    marked (c.applyAll run) = true ↔
      (marked c = true ∧ ∀ x ∈ run, clears x.2 = false) ∨ Event.LastSets sets clears run := by
  induction run generalizing c with
  | nil => simp [applyAll, Event.LastSets]
  | cons x run ih =>
    refine (ih (c.apply x.1 x.2).1).trans ?_
    rw [step, Event.lastSets_cons, List.forall_mem_cons, ← or_assoc]
    refine or_congr_left ?_
    cases sets x.2 <;> cases marked c <;> cases clears x.2 <;> simp

/--
After any run from an empty cache, whatever it retains, a guild is unready just if a session
announced it, and unavailable just if it was lost in an outage, and it has neither been hydrated nor
gone for good since. No other event changes either marker, and whether an announced guild is called
unavailable makes no difference to anything.
-/
theorem markers_applyAll (flags : Retention) (run : List (Timestamp × Event)) (g : Snowflake) :
    let c := (empty flags).applyAll run
    (c.unready.contains g = true ↔ Event.LastSets (·.announces g) (·.settles g) run) ∧
      (c.unavailable.contains g = true ↔
        Event.LastSets (·.losesInOutage g) (·.settles g) run) ∧
      (∀ (now : Timestamp) (before : Cache) (e : Event), e.settles g = false →
        (e.announces g = false →
          (before.apply now e).1.unready.contains g = before.unready.contains g) ∧
        (e.losesInOutage g = false →
          (before.apply now e).1.unavailable.contains g = before.unavailable.contains g)) ∧
      ∀ (now : Timestamp) (before : Cache) (r : Ready) (stubs : List GuildStub),
        stubs.map (·.id) = r.guilds.map (·.id) →
        (before.apply now (.ready { r with guilds := stubs })).1 =
          (before.apply now (.ready r)).1 := by
  intro c
  have unready (now : Timestamp) (c : Cache) (e : Event) :
      (c.apply now e).1.unready.contains g =
        (e.announces g || (c.unready.contains g && !e.settles g)) := by
    rw [fst_apply]
    exact e.contains_onUnready c.unready
  have unavailable (now : Timestamp) (c : Cache) (e : Event) :
      (c.apply now e).1.unavailable.contains g =
        (e.losesInOutage g || (c.unavailable.contains g && !e.settles g)) := by
    rw [fst_apply]
    exact e.contains_onUnavailable c.unavailable
  refine ⟨?_, ?_, ?_, ?_⟩
  · refine (marked_applyAll (·.unready.contains g) _ _ unready (empty flags) run).trans ?_
    simp [empty]
  · refine (marked_applyAll (·.unavailable.contains g) _ _ unavailable (empty flags) run).trans ?_
    simp [empty]
  · intro now before e unsettled
    constructor
    · intro other
      simp [unready, unsettled, other]
    · intro other
      simp [unavailable, unsettled, other]
  · intro now before r stubs same
    have marks (guilds : List GuildStub) :
        guilds.foldl (fun s g => s.set g.id true) before.unready =
          (guilds.map (·.id)).foldl (fun s id => s.set id true) before.unready := by
      rw [List.foldl_map]
    simp only [fst_apply, Event.onUnready, marks, same]
    rfl

end Cache

end GatewayCache
