import GatewayCache.Entity.Member
import GatewayCache.Proofs.Schema.Table
import GatewayCache.Proofs.TimestampCase
import GatewayCache.Proofs.TimestampSpelling
import Mathlib.Logic.Relation

/-!
Timeouts are decided by instants. However the end of a timeout and the present are spelled, the
timeout is in effect when its end denotes the later instant, and the end is written back in the one
way in which its instant is written.
-/
namespace GatewayCache

namespace Timestamp

open Text

/-! ### Spellings of one instant -/

/-- A text shows a date and time that exist, and clocks at its offset show them at an instant. -/
def Denotes (text : String) (i : Instant) : Prop :=
  ∃ sp : Spelling, sp.text = text ∧ sp.shown.Exists ∧ sp.instant = i

theorem denotes_iff {text : String} {t : Timestamp} (read : parse? text = some t) (i : Instant) :
    Denotes text i ↔ i = t.instant := by
  constructor
  · rintro ⟨sp, rfl, -, rfl⟩
    obtain ⟨low, high⟩ := sp.zone.offset_bounds
    rw [parse?_text, ofLocal?_eq_some_iff low high] at read
    exact read.2.symm
  · rintro rfl
    obtain ⟨sp, text, found, instant⟩ := parse?_eq_some_iff.1 read
    exact ⟨sp, text, found, instant.symm⟩

/-- The digits of a fraction of a second, if there is one. -/
def fractionDigits : Option Digits → List Char
  | none => []
  | some ds => ds.chars

theorem fractionNanos_eq (f : Option Digits) :
    fractionNanos f = ofDigits (fractionDigits f) * 10 ^ 9 / 10 ^ (fractionDigits f).length := by
  cases f <;> rfl

theorem fractionNanos_zeros {f f' : Option Digits} {zeros : Nat}
    (padded : fractionDigits f' = fractionDigits f ++ List.replicate zeros '0') :
    fractionNanos f' = fractionNanos f := by
  have nothing : ofDigits (List.replicate zeros '0') = 0 := by
    rw [ofDigits_eq, Nat.ofDigitChars_replicate_zero, Nat.mul_zero]
  rw [fractionNanos_eq, fractionNanos_eq, padded, ofDigits_append, nothing, List.length_append,
    List.length_replicate, Nat.pow_add, Nat.add_zero, Nat.mul_assoc,
    Nat.mul_comm (10 ^ (fractionDigits f).length),
    Nat.mul_div_mul_left _ _ (Nat.pow_pos (by decide))]

/-- One text is the other one, but for how the instant is spelled. -/
inductive Respelled : String → String → Prop
  /-- The date and time that other clocks show at the same instant, with their offset. -/
  | offset (sp sp' : Spelling) (found : sp.shown.Exists) (found' : sp'.shown.Exists)
      (same : sp.instant = sp'.instant) : Respelled sp.text sp'.text
  | separator (sp : Spelling) (separator : Separator) :
      Respelled sp.text { sp with separator }.text
  | letterCase {text text' : String} (same : lowerAscii text = lowerAscii text') :
      Respelled text text'
  | zeros (sp : Spelling) (fraction : Option Digits) (zeros : Nat)
      (padded : fractionDigits fraction = fractionDigits sp.fraction ++ List.replicate zeros '0') :
      Respelled sp.text { sp with fraction }.text

theorem Respelled.parse?_eq {text text' : String} (h : Respelled text text') :
    parse? text' = parse? text := by
  cases h with
  | offset sp sp' found found' same =>
    obtain ⟨low, high⟩ := sp.zone.offset_bounds
    obtain ⟨low', high'⟩ := sp'.zone.offset_bounds
    have sameInstant : sp.shown.instant sp.zone.offset = sp'.shown.instant sp'.zone.offset := same
    refine Option.ext fun t => ?_
    rw [parse?_text, parse?_text, ofLocal?_eq_some_iff low high, ofLocal?_eq_some_iff low' high',
      sameInstant]
    exact and_congr_left' (iff_of_true found' found)
  | separator sp separator => rw [parse?_text, parse?_text]; rfl
  | letterCase same => rw [← parse?_lowerAscii text, same, parse?_lowerAscii]
  | zeros sp fraction zeros padded =>
    have shown : { sp with fraction }.shown = sp.shown := by
      simp only [Spelling.shown, fractionNanos_zeros padded]
    rw [parse?_text, parse?_text, shown]

/-- However often a text is respelled, it denotes what it did. -/
theorem parse?_eq_of_respelled {text text' : String} (h : Relation.EqvGen Respelled text text') :
    parse? text' = parse? text := by
  induction h with
  | rel _ _ respelled => exact respelled.parse?_eq
  | refl _ => rfl
  | symm _ _ _ ih => exact ih.symm
  | trans _ _ _ _ _ first second => exact second.trans first

/-! ### The text that is written -/

theorem render_injective : Function.Injective render := by
  intro t u same
  have read := parse?_render t
  rw [same, parse?_render u] at read
  exact (Option.some.inj read).symm

theorem toList_render (t : Timestamp) : ∃ front, t.render.toList = front ++ ['Z'] :=
  ⟨_, String.toList_ofList⟩

end Timestamp

/-! ### The key of a timeout -/

theorem Field.read_congr {α : Type} {f : Field α} {o o' : Json.Object}
    (same : o'.values f.key = o.values f.key) (r : Reading) : f.read r o' = f.read r o := by
  rw [read, same, read]

theorem Layout.values_write_of_ne {α β : Type} {f : Field α} {rest : Layout β} {key : String}
    (ne : f.key ≠ key) (ab : α × β) :
    Json.Object.values (((Layout.field f).and rest).write ab) key =
      Json.Object.values (rest.write ab.2) key := by
  have nothing : Json.Object.values ((Layout.field f).write ab.1) key = [] := by
    simp only [Layout.field, Field.write]
    split
    · rfl
    · simp [Json.Object.values_cons, ne]
  simp only [Layout.and, Json.Object.values_append, nothing, List.nil_append]

theorem Layout.and_read_congr {α β : Type} {first : Layout α} {second : Layout β} {r : Reading}
    {o o' : Json.Object} (same : first.read r o' = first.read r o)
    (same' : second.read r o' = second.read r o) :
    (first.and second).read r o' = (first.and second).read r o := by
  simp only [Layout.and, same, same']

theorem Codec.timestamp_nullable_read (r : Reading) (text : String) :
    timestamp.nullable.read r (.string text) =
      match Timestamp.parse? text with
      | some t => .ok (some t)
      | none => .error .invalid := by
  simp only [nullable, timestamp]
  cases Timestamp.parse? text <;> rfl

namespace Member

open Timestamp

variable {r : Reading} {before after : Json.Object} {text text' : String} {m : Member}

/-- An object of a member in which the end of a timeout stands somewhere. -/
abbrev timeoutObject (before after : Json.Object) (text : String) : Json.Object :=
  before ++ ("communication_disabled_until", .string text) :: after

theorem read_timeoutEnd (read : layout.read r (timeoutObject before after text) = .ok m) :
    ∃ last, parse? text = some last ∧ m.timeoutEnd = some last := by
  obtain ⟨⟨guildId, user, nick, roles, joinedAt, pending, timeoutEnd⟩, parts, rfl⟩ :=
    map_eq_ok.1 read
  -- The end of a timeout is the last of seven keys.
  iterate 6 replace parts := (Layout.and_read_eq_ok.1 parts).2
  rcases Field.read_eq_ok.1 parts with ⟨none, -⟩ | ⟨j, one, decoded⟩
  · simp [Json.Object.values_insert] at none
  · have here : Json.string text ∈ [j] := by
      rw [← one]
      exact Json.Object.mem_values.2 (by simp)
    obtain rfl : Json.string text = j := List.mem_singleton.1 here
    rw [Codec.timestamp_nullable_read] at decoded
    split at decoded
    next last accepted =>
      cases decoded
      exact ⟨last, accepted, rfl⟩
    next => cases decoded

theorem read_respelled (same : parse? text' = parse? text) :
    layout.read r (timeoutObject before after text') =
      layout.read r (timeoutObject before after text) := by
  have other {key : String} (ne : "communication_disabled_until" ≠ key) :
      (timeoutObject before after text').values key =
        (timeoutObject before after text).values key := by
    rw [Json.Object.values_insert_of_ne ne, Json.Object.values_insert_of_ne ne]
  -- The six keys in front of it have the values that they had.
  refine congrArg (Except.map _) ?_
  iterate 6 refine Layout.and_read_congr (Field.read_congr (other (by decide)) r) ?_
  simp only [Layout.optional, Layout.field, Field.read, Json.Object.values_insert]
  -- If the key stands elsewhere in the object, too, both reads fail for that.
  cases before.values "communication_disabled_until" with
  | nil =>
    cases after.values "communication_disabled_until" with
    | nil => simp only [List.nil_append, Codec.timestamp_nullable_read, same]
    | cons => rfl
  | cons _ front => cases front <;> rfl

theorem values_write {last : Timestamp} (timeout : m.timeoutEnd = some last) :
    (layout.write m).values "communication_disabled_until" = [.string last.render] := by
  change Json.Object.values (Layout.write (.and _ <| .and _ <| .and _ <| .and _ <| .and _ <|
    .and _ _) (_, _, _, _, _, _, _)) _ = _
  iterate 6 refine (Layout.values_write_of_ne (by decide) _).trans ?_
  rw [timeout]
  rfl

theorem timedOutAt_iff {last : Timestamp} (timeout : m.timeoutEnd = some last) (now : Timestamp) :
    m.timedOutAt now = true ↔ now.instant < last.instant := by
  rw [timedOutAt, timeout, Option.any_some, decide_eq_true_iff, lt_iff_instant_lt]

/--
Timeouts are decided by instants. The text that a member's timeout is read from and the text of the
present denote one instant each, and the timeout is in effect when its end is the later one. With
either text spelled in another way the same member and the same present are read. What is written is
in UTC and is read as the same end again, and two ends are written alike when the texts that they
are read from denote one instant.
-/
theorem timedOutAt_by_instant (read : layout.read r (timeoutObject before after text) = .ok m)
    {now : String} {t : Timestamp} (accepted : parse? now = some t) :
    (∃ i j, (∀ k, Denotes text k ↔ k = i) ∧ (∀ k, Denotes now k ↔ k = j) ∧
      (m.timedOutAt t = true ↔ j < i)) ∧
    (∀ text' now', Relation.EqvGen Respelled text text' → Relation.EqvGen Respelled now now' →
      layout.read r (timeoutObject before after text') = .ok m ∧ parse? now' = some t) ∧
    ∃ last, m.timeoutEnd = some last ∧
      (layout.write m).values "communication_disabled_until" = [.string last.render] ∧
      (∃ front, last.render.toList = front ++ ['Z']) ∧ parse? last.render = some last ∧
      ∀ other u, parse? other = some u →
        (u.render = last.render ↔ ∃ i, Denotes text i ∧ Denotes other i) := by
  obtain ⟨last, ofText, timeout⟩ := read_timeoutEnd read
  refine ⟨?_, ?_, ?_⟩
  · exact ⟨last.instant, t.instant, denotes_iff ofText, denotes_iff accepted,
      timedOutAt_iff timeout t⟩
  · intro text' now' respelled respelled'
    constructor
    · rw [read_respelled (parse?_eq_of_respelled respelled), read]
    · rw [parse?_eq_of_respelled respelled', accepted]
  · refine ⟨last, timeout, values_write timeout, toList_render last, parse?_render last, ?_⟩
    intro other u ofOther
    simp only [denotes_iff ofText, denotes_iff ofOther, exists_eq_left]
    rw [render_injective.eq_iff, instant_injective.eq_iff, eq_comm]

/-- A timeout until a leap second is in effect in the second before, wherever clocks show it. -/
theorem timedOutAt_by_instant_in_leapSecond :
    let user : String × Json := ("user", .object [("id", .ofNat 2), ("username", .string "")])
    let last : Timestamp := ⟨⟨⟨2016, 12, 31⟩, 23, 59, 60, 500000000⟩, by decide⟩
    let present : Timestamp := ⟨⟨⟨2016, 12, 31⟩, 23, 59, 59, 999999999⟩, by decide⟩
    let m : Member := { guildId := 0, user := { id := 2, username := "" }, timeoutEnd := last }
    let text := "2016-12-31T23:59:60.5Z"
    let now := "2017-01-01 05:29:59.9999999999+0530"
    layout.read .direct (timeoutObject [user] [] text) = .ok m ∧ parse? now = some present ∧
      (∃ i j, Denotes text i ∧ Denotes now j ∧ j < i) ∧ m.timedOutAt present = true ∧
      layout.read .direct (timeoutObject [user] [] "2016-12-31t23:59:60.5z") = .ok m ∧
      (layout.write m).values "communication_disabled_until" =
        [.string "2016-12-31T23:59:60.500Z"] := by
  intro user last present m text now
  have read : layout.read .direct (timeoutObject [user] [] text) = .ok m := by decide +kernel
  have accepted : parse? now = some present := by decide +kernel
  have lower : Respelled text "2016-12-31t23:59:60.5z" := .letterCase (by decide +kernel)
  obtain ⟨⟨i, j, ofText, ofNow, decision⟩, respelled, ends, timeout, written, -⟩ :=
    timedOutAt_by_instant read accepted
  obtain rfl : last = ends := Option.some.inj timeout
  have timedOut : m.timedOutAt present = true := by decide +kernel
  refine ⟨read, accepted, ?_, timedOut, ?_, ?_⟩
  · exact ⟨i, j, (ofText i).2 rfl, (ofNow j).2 rfl, decision.1 timedOut⟩
  · exact (respelled _ now (.rel _ _ lower) (.refl now)).1
  · have canonical : last.render = "2016-12-31T23:59:60.500Z" := by decide +kernel
    rw [written, canonical]

end Member

end GatewayCache
