import GatewayCache.Proofs.Parts
import GatewayCache.Proofs.SpelledNames
import GatewayCache.Replay.Run

/-!
What a replay makes of its lines: those that are events are applied in order, those that are neither
blank nor an event are counted, and nothing else about them is left.
-/
namespace GatewayCache

open Text (allBlank isBlank)

/-! ### Blank text is no document -/

namespace Json.Read

theorem char_of_blank {c : Char} (visible : ¬isBlank c) {input : List Char}
    (blank : ∀ d ∈ input, isBlank d) : Text.char c input = none := by
  cases input with
  | nil => rfl
  | cons d rest =>
    have other : d ≠ c := fun same => visible (same ▸ blank d List.mem_cons_self)
    rw [Text.char, if_neg other]

theorem digits_of_blank {input : List Char} (blank : ∀ d ∈ input, isBlank d) :
    Text.digits input = none := by
  cases input with
  | nil => rfl
  | cons d rest =>
    have noDigit : ¬d.isDigit := fun digit => by
      have visible := Text.not_isBlank_of_isDigit digit
      rw [blank d List.mem_cons_self] at visible
      cases visible
    rw [Text.digits, Text.run, if_neg noDigit]

theorem number_of_blank {input : List Char} (blank : ∀ d ∈ input, isBlank d) :
    number input = none := by
  have noWhole : wholePart input = none := by
    unfold wholePart
    split
    next => exact absurd (blank '0' List.mem_cons_self) (by decide)
    next => exact digits_of_blank blank
  have noUnsigned (negative : Bool) : unsigned negative input = none := by
    rw [unsigned, noWhole]
    rfl
  unfold number
  split
  next => exact absurd (blank '-' List.mem_cons_self) (by decide)
  next => exact noUnsigned false

theorem value_of_blank (room depth : Nat) {input : List Char} (blank : ∀ d ∈ input, isBlank d) :
    value room depth input = none := by
  -- What a document starts with is a mark, a letter or a digit, and none of these is white space.
  have noHead {c : Char} (visible : ¬isBlank c) : input.head? ≠ some c := fun head =>
    visible (blank c (List.mem_of_head? head))
  have noAtom : atom input = none := by
    unfold atom
    split
    next head => exact absurd head (noHead (by decide))
    next head => exact absurd head (noHead (by decide))
    next head => exact absurd head (noHead (by decide))
    next head => exact absurd head (noHead (by decide))
    next => rw [number_of_blank blank, Option.map_none]
  cases room with
  | zero => exact noAtom
  | succ room =>
    have noArray : Text.char '[' input = none := char_of_blank (by decide) blank
    have noObject : Text.char '{' input = none := char_of_blank (by decide) blank
    simp only [value, noArray, noObject, noAtom]

end Json.Read

theorem Json.parse?_of_blank {text : String} (blank : allBlank text) : Json.parse? text = none := by
  have blankRest : ∀ c ∈ (Read.skipSpace text.toList).rest, isBlank c := fun c mem =>
    Text.mem_allBlank.1 blank c ((List.dropWhile_sublist _).subset mem)
  rw [parse?, Read.value_of_blank _ _ blankRest]
  rfl

namespace Replay

/-! ### Lines -/

/-- The event that a line is, if it is one. -/
def decode? (line : String) : Option Event := (Event.codec.decodeText line).toOption

/-- The events among some lines, in order. -/
def eventsIn (lines : List String) : List Event := lines.filterMap decode?

/-- Whether a line is neither blank nor an event. -/
def isBad (line : String) : Bool := !allBlank line && (decode? line).isNone

theorem decode?_of_blank {line : String} (blank : allBlank line) : decode? line = none := by
  rw [decode?, Codec.decodeText, Json.parse?_of_blank blank]
  rfl

theorem not_allBlank_of_event {line : String} {e : Event} (h : decode? line = some e) :
    allBlank line = false := by
  by_contra blank
  rw [decode?_of_blank (by simpa using blank)] at h
  cases h

theorem eventsIn_cons_of_event {line : String} {e : Event} (h : decode? line = some e)
    (lines : List String) : eventsIn (line :: lines) = e :: eventsIn lines :=
  List.filterMap_cons_some h

theorem eventsIn_cons_of_none {line : String} (h : decode? line = none) (lines : List String) :
    eventsIn (line :: lines) = eventsIn lines :=
  List.filterMap_cons_none h

theorem length_eventsIn (lines : List String) :
    (eventsIn lines).length = lines.countP fun line => (decode? line).isSome :=
  List.length_filterMap_eq_countP

/-- A line that is not blank is an event or bad, and never both. -/
theorem count_events_add_bad (lines : List String) :
    (eventsIn lines).length + lines.countP isBad = lines.countP fun line => !allBlank line := by
  induction lines with
  | nil => rfl
  | cons line lines ih =>
    rw [List.countP_cons, List.countP_cons, ← ih]
    cases decoded : decode? line with
    | some e =>
      have visible := not_allBlank_of_event decoded
      have good : isBad line = false := by simp [isBad, decoded]
      simp only [eventsIn_cons_of_event decoded, List.length_cons, good, visible]
      simp only [Bool.false_eq_true, if_false, Bool.not_false, if_true]
      omega
    | none =>
      have bad : isBad line = !allBlank line := by simp [isBad, decoded]
      rw [eventsIn_cons_of_none decoded, bad, Nat.add_assoc]

/-- A line that may come or go: it is blank, or it does not decode. -/
def IsNoise (line : String) : Prop :=
  allBlank line ∨ ∃ cause, Event.codec.decodeText line = .error cause

theorem IsNoise.decode? {line : String} : IsNoise line → decode? line = none
  | .inl blank => decode?_of_blank blank
  | .inr ⟨cause, failed⟩ => by rw [Replay.decode?, failed]; rfl

/-- The same lines, but for lines that may come or go anywhere among them. -/
inductive Tidied : List String → List String → Prop
  | nil : Tidied [] []
  | keep (line : String) {lines lines' : List String} (rest : Tidied lines lines') :
      Tidied (line :: lines) (line :: lines')
  | insert {line : String} (noise : IsNoise line) {lines lines' : List String}
      (rest : Tidied lines lines') : Tidied lines (line :: lines')
  | delete {line : String} (noise : IsNoise line) {lines lines' : List String}
      (rest : Tidied lines lines') : Tidied (line :: lines) lines'

theorem Tidied.eventsIn_eq {lines lines' : List String} (h : Tidied lines lines') :
    eventsIn lines' = eventsIn lines := by
  induction h with
  | nil => rfl
  | keep line _ ih =>
    cases decoded : decode? line with
    | some e => rw [eventsIn_cons_of_event decoded, eventsIn_cons_of_event decoded, ih]
    | none => rw [eventsIn_cons_of_none decoded, eventsIn_cons_of_none decoded, ih]
  | insert noise _ ih => rw [eventsIn_cons_of_none noise.decode?, ih]
  | delete noise _ ih => rw [eventsIn_cons_of_none noise.decode?, ih]

/-! ### Tallies -/

namespace Tally

theorem add_of_event {line : String} {e : Event} (h : decode? line = some e) (now : Timestamp)
    (t : Tally) : t.add now (.ofLine line) =
      { t with cache := (t.cache.apply now e).1, applied := t.applied + 1 } := by
  rw [Entry.ofLine, not_allBlank_of_event h, if_neg Bool.false_ne_true]
  unfold decode? at h
  cases decoded : Event.codec.decodeText line with
  | error cause =>
    rw [decoded] at h
    cases h
  | ok e' =>
    rw [decoded] at h
    cases h
    rfl

theorem add_of_none {line : String} (h : decode? line = none) (now : Timestamp) (t : Tally) :
    t.add now (.ofLine line) = { t with skipped := t.skipped + [line].countP isBad } := by
  -- A line that is no event counts as skipped unless it is blank.
  by_cases blank : allBlank line
  · have good : [line].countP isBad = 0 := by simp [isBad, blank]
    rw [Entry.ofLine, if_pos blank, good]
    rfl
  · have bad : [line].countP isBad = 1 := by simp [isBad, blank, h]
    rw [Entry.ofLine, if_neg blank, bad]
    unfold decode? at h
    cases decoded : Event.codec.decodeText line with
    | error cause => rfl
    | ok e =>
      rw [decoded] at h
      cases h

/-- What lines come to: their events in the cache, and one counter for each kind of line. -/
theorem fst_addLines_eq (now : Timestamp) (number : Nat) (t : Tally) (lines : List String) :
    (t.addLines now number lines).1 =
      { cache := (eventsIn lines).foldl (fun c e => (c.apply now e).1) t.cache
        applied := t.applied + (eventsIn lines).length
        skipped := t.skipped + lines.countP isBad } := by
  rw [fst_addLines]
  -- The rest of the lines goes on from the tally that has the first line in it.
  induction lines generalizing t with
  | nil => rfl
  | cons line lines ih =>
    rw [List.foldl_cons, ih, ← List.singleton_append, List.countP_append]
    cases decoded : decode? line with
    | some e =>
      have good : [line].countP isBad = 0 := by simp [isBad, decoded]
      rw [add_of_event decoded, List.singleton_append, eventsIn_cons_of_event decoded, good]
      simp [Nat.add_assoc, Nat.add_comm]
    | none =>
      rw [add_of_none decoded, List.singleton_append, eventsIn_cons_of_none decoded]
      simp [Nat.add_assoc]

/-- What a replay of some lines comes to. -/
def ofLines (retention : Retention) (now : Timestamp) (lines : List String) : Tally :=
  ((start retention).addLines now 1 lines).1

theorem ofLines_eq (retention : Retention) (now : Timestamp) (lines : List String) :
    ofLines retention now lines =
      { cache := (eventsIn lines).foldl (fun c e => (c.apply now e).1) (Cache.empty retention)
        applied := (eventsIn lines).length
        skipped := lines.countP isBad } := by
  rw [ofLines, fst_addLines_eq, start, Nat.zero_add, Nat.zero_add]

/-- The number of skipped lines is one field of the summary; no other depends on it. -/
theorem summary_fields_congr {t t' : Tally} (cache : t'.cache = t.cache)
    (applied : t'.applied = t.applied) :
    t'.summary.fields.filter (·.1 ≠ "skipped") = t.summary.fields.filter (·.1 ≠ "skipped") := by
  cases t
  cases t'
  subst cache applied
  rfl

end Tally

/-! ### Reports -/

/-- What is reported about the guild that was asked for, if one was. -/
def report (now : Timestamp) (inv : Invocation) (c : Cache) : List Log.Record :=
  match inv.guild with
  | some guildId => guildRecords now c guildId
  | none => []

theorem runFile_of_readable {bytes : ByteArray} {lines : List String}
    (readable : Lines.ofBytes bytes = ⟨lines, true⟩) (now : Timestamp) (inv : Invocation)
    (retention : Retention) :
    runFile now inv retention bytes =
      ⟨((Tally.start retention).addLines now 1 lines).2 ++
        (Tally.ofLines retention now lines).summary ::
          report now inv (Tally.ofLines retention now lines).cache, none⟩ := by
  simp only [runFile, readable, if_true]
  rfl

/--
Replay skips bad lines without a trace. The cache is what the events of the lines that decode lead
to, in order and whenever each is applied; each line that is not blank is counted once, as an event
or as skipped; and that is what a replay of a readable file reports. Blank lines and lines that do
not decode may come and go without a change to the cache, to the number of events or to anything
that is reported about the cache.
-/
theorem replay_skips_bad_lines (retention : Retention) (now : Timestamp) (lines : List String) :
    let t := Tally.ofLines retention now lines
    (∀ run : List (Timestamp × Event), run.map (·.2) = eventsIn lines →
      t.cache = (Cache.empty retention).applyAll run) ∧
    t.applied = (lines.countP fun line => (decode? line).isSome) ∧
    t.skipped = lines.countP isBad ∧
    t.applied + t.skipped = (lines.countP fun line => !allBlank line) ∧
    (∀ inv bytes, Lines.ofBytes bytes = ⟨lines, true⟩ →
      ∃ records, runFile now inv retention bytes =
        ⟨records ++ t.summary :: report now inv t.cache, none⟩) ∧
    ∀ lines', Tidied lines lines' →
      let t' := Tally.ofLines retention now lines'
      t'.cache = t.cache ∧ t'.applied = t.applied ∧
      t'.summary.fields.filter (·.1 ≠ "skipped") = t.summary.fields.filter (·.1 ≠ "skipped") ∧
      ∀ inv, report now inv t'.cache = report now inv t.cache := by
  intro t
  have total : t = _ := Tally.ofLines_eq retention now lines
  refine ⟨?_, ?_, ?_, ?_, ?_, ?_⟩
  · intro run sameEvents
    rw [Cache.applyAll_timeless now, sameEvents, total]
  · rw [total, length_eventsIn]
  · rw [total]
  · rw [total, count_events_add_bad]
  · intro inv bytes readable
    exact ⟨_, runFile_of_readable readable now inv retention⟩
  · intro lines' tidied t'
    have total' : t' = _ := Tally.ofLines_eq retention now lines'
    have cache : t'.cache = t.cache := by rw [total', total, tidied.eventsIn_eq]
    have applied : t'.applied = t.applied := by rw [total', total, tidied.eventsIn_eq]
    exact ⟨cache, applied, Tally.summary_fields_congr cache applied, fun inv => by rw [cache]⟩

/-- One line of an event, one that does not decode, and a blank one more or less. -/
theorem replay_skips_bad_lines_of_mixed :
    let event := "\x7b\"t\":\"GUILD_DELETE\",\"d\":\x7b\"id\":5\x7d\x7d"
    let t := Tally.ofLines .standard .epoch [event, "oops"]
    let t' := Tally.ofLines .standard .epoch ["\u00a0", event]
    t.applied = 1 ∧ t.skipped = 1 ∧ t.applied + t.skipped = 2 ∧ t'.cache = t.cache ∧
    (∃ e, decode? event = some e ∧
      t.cache = (Cache.empty .standard).applyAll [(.epoch, e)]) ∧
    ∀ inv, ∃ records, runFile .epoch inv .standard (event ++ "\noops\n").toUTF8 =
      ⟨records ++ t.summary :: report .epoch inv t.cache, none⟩ := by
  intro event t t'
  have isEvent : (decode? event).isSome = true := by decide +kernel
  obtain ⟨e, decoded⟩ := Option.isSome_iff_exists.1 isEvent
  have noEvent : decode? "oops" = none := by decide +kernel
  have noise : IsNoise "oops" := .inr ⟨.malformed, by decide +kernel⟩
  have blank : IsNoise "\u00a0" := .inl (by decide)
  have read : Lines.ofBytes (event ++ "\noops\n").toUTF8 = ⟨[event, "oops"], true⟩ :=
    congrArg₂ Lines.mk (by decide +kernel) (by decide +kernel)
  obtain ⟨cache, applied, skipped, sum, reported, tidied⟩ :=
    replay_skips_bad_lines .standard .epoch [event, "oops"]
  refine ⟨applied.trans (by decide +kernel), skipped.trans (by decide +kernel),
    sum.trans (by decide +kernel), (tidied _ (.insert blank (.keep event (.delete noise .nil)))).1,
    ⟨e, decoded, cache _ ?_⟩, fun inv => reported inv _ read⟩
  rw [eventsIn_cons_of_event decoded, eventsIn_cons_of_none noEvent]
  rfl

end Replay

end GatewayCache
