import GatewayCache.Proofs.LetterCase
import GatewayCache.Proofs.TimestampText

/-!
The case of letters does not matter to a timestamp. Letters stand between date and time and in the
names of UTC only, and everything else that is looked for has one case.
-/
namespace GatewayCache.Timestamp

open Text

/-! ### Readers -/

/-- A reader that takes the same from a text in lower case. -/
def CaseBlind {α : Type} (read : List Char → Option (α × List Char)) : Prop :=
  ∀ cs, read (cs.map Char.toLower) = (read cs).map fun (a, rest) => (a, rest.map Char.toLower)

namespace CaseBlind

variable {α β : Type}

theorem pure (a : α) : CaseBlind fun cs => some (a, cs) := fun _ => rfl

theorem bind {read : List Char → Option (α × List Char)}
    {next : α → List Char → Option (β × List Char)} (first : CaseBlind read)
    (second : ∀ a, CaseBlind (next a)) :
    CaseBlind fun cs => (read cs).bind fun (a, rest) => next a rest := by
  intro cs
  simp only [first cs]
  cases read cs with
  | none => rfl
  | some found => exact second found.1 found.2

theorem mark (c : Char) (noLetter : c.isAlpha = false)
    {next : List Char → Option (β × List Char)} (behind : CaseBlind next) :
    CaseBlind fun cs => (Read.mark c cs).bind next := by
  intro cs
  simp only [Read.mark, dropBlank_map_toLower]
  cases dropBlank cs with
  | nil => rfl
  | cons d rest =>
    simp only [List.map_cons, toLower_eq_iff noLetter]
    split
    · exact behind rest
    · rfl

end CaseBlind

theorem number_caseBlind (width : Nat) : CaseBlind (Read.number width) := by
  intro cs
  simp only [Read.number, dropBlank_map_toLower, ← List.map_take, takeWhile_isDigit_map_toLower]
  split
  · rfl
  · rw [← List.map_drop, Option.map_some]

theorem year_caseBlind : CaseBlind Read.year := by
  have number (width : Nat) (sign : Nat → Int) :
      CaseBlind fun cs => (Read.number width cs).bind fun read => some (sign read.1, read.2) :=
    (number_caseBlind width).bind fun _ => .pure _
  have first (cs : List Char) :
      (cs.map Char.toLower).head?.any Char.isDigit = cs.head?.any Char.isDigit := by
    cases cs <;> simp [isDigit_toLower]
  intro cs
  simp only [Read.year, dropBlank_map_toLower]
  cases dropBlank cs with
  | nil => rfl
  | cons c cs =>
    -- Signs have one case, so there is one in front of both texts or of none.
    by_cases minus : c = '-'
    · subst minus
      have same : '-'.toLower = '-' := toLower_eq_self (by decide)
      simp only [List.map_cons, same, first, List.length_map]
      cases cs.head?.any Char.isDigit with
      | false => rfl
      | true => exact number cs.length (fun n => -n) cs
    by_cases plus : c = '+'
    · subst plus
      have same : '+'.toLower = '+' := toLower_eq_self (by decide)
      simp only [List.map_cons, same, first, List.length_map]
      cases cs.head?.any Char.isDigit with
      | false => rfl
      | true => exact number cs.length (fun n => n) cs
    have minus' := mt (toLower_eq_iff (by decide)).1 minus
    have plus' := mt (toLower_eq_iff (by decide)).1 plus
    have unsigned := number 4 (fun n => n) (c :: cs)
    simpa [minus, plus, minus', plus'] using unsigned

theorem date_caseBlind : CaseBlind Read.date :=
  year_caseBlind.bind fun _ => .mark '-' (by decide) <|
    (number_caseBlind 2).bind fun _ => .mark '-' (by decide) <|
      (number_caseBlind 2).bind fun _ => .pure _

theorem fraction_caseBlind : CaseBlind Read.fraction := by
  intro cs
  cases cs with
  | nil => rfl
  | cons c cs =>
    by_cases point : c = '.'
    · subst point
      have same : '.'.toLower = '.' := toLower_eq_self (by decide)
      simp only [List.map_cons, same, Read.fraction, takeWhile_isDigit_map_toLower,
        dropWhile_map_toLower isDigit_toLower]
      split <;> rfl
    · have point' := mt (toLower_eq_iff (by decide)).1 point
      simp [Read.fraction, point, point']

theorem time_caseBlind : CaseBlind Read.time :=
  (number_caseBlind 2).bind fun hour => .mark ':' (by decide) <|
    (number_caseBlind 2).bind fun minute => .mark ':' (by decide) <|
      (number_caseBlind 2).bind fun second => fraction_caseBlind.bind fun nano =>
        .pure (hour, minute, second, nano)

theorem hoursMinutes_caseBlind : CaseBlind Read.hoursMinutes := by
  have between (c : Char) : (c.toLower == ':' || isBlank c.toLower) = (c == ':' || isBlank c) := by
    have colon : c.toLower = ':' ↔ c = ':' := toLower_eq_iff (by decide)
    rw [isBlank_toLower, Bool.eq_iff_iff]
    simp only [Bool.or_eq_true, beq_iff_eq, colon]
  intro cs
  match cs with
  | [] => rfl
  | [_] => rfl
  | h :: h' :: cs =>
    have behind := dropWhile_map_toLower (p := fun c => c == ':' || isBlank c) between cs
    simp only [Read.hoursMinutes, List.map_cons, behind]
    match cs.dropWhile fun c => c == ':' || isBlank c with
    | [] => rfl
    | [_] => rfl
    | m :: m' :: rest =>
      have digits : [h.toLower, h'.toLower, m.toLower, m'.toLower].all Char.isDigit =
          [h, h', m, m'].all Char.isDigit := by
        simp only [List.all_cons, List.all_nil, isDigit_toLower]
      simp only [List.map_cons, digits]
      -- Digits have one case as well, so their value is the same.
      cases valid : [h, h', m, m'].all Char.isDigit with
      | false => rfl
      | true =>
        simp only [List.all_cons, List.all_nil, Bool.and_eq_true] at valid
        obtain ⟨hh, hh', mm, mm', -⟩ := valid
        simp only [toLower_of_isDigit hh, toLower_of_isDigit hh', toLower_of_isDigit mm,
          toLower_of_isDigit mm']
        split <;> rfl

theorem startsUtc_map_toLower (cs : List Char) :
    Read.startsUtc (cs.map Char.toLower) = Read.startsUtc cs := by
  have again : Char.toLower ∘ Char.toLower = Char.toLower := funext toLower_toLower
  rw [Read.startsUtc, ← List.map_take, List.map_map, again, Read.startsUtc]

theorem offset_caseBlind : CaseBlind Read.offset := by
  have shift (sign : Nat → Int) :
      CaseBlind fun cs => (Read.hoursMinutes cs).bind fun read => some (sign read.1, read.2) :=
    hoursMinutes_caseBlind.bind fun _ => .pure _
  intro cs
  simp only [Read.offset, dropBlank_map_toLower, startsUtc_map_toLower]
  split
  next => rw [← List.map_drop, Option.map_some]
  next =>
    cases dropBlank cs with
    | nil => rfl
    | cons c cs =>
      by_cases zulu : c.toLower = 'z'
      · have letter := eq_or_eq_of_toLower_eq 'Z' (by decide) zulu
        rcases letter with rfl | rfl <;> rfl
      by_cases plus : c = '+'
      · subst plus
        exact shift (fun n => n) cs
      by_cases minus : c = '-' ∨ c = '\u2212'
      · rcases minus with rfl | rfl
        · exact shift (fun n => -n) cs
        · exact shift (fun n => -n) cs
      -- No offset starts like this, in either case.
      have noZ : c ≠ 'Z' ∧ c ≠ 'z' := ⟨by rintro rfl; exact zulu rfl, by rintro rfl; exact zulu rfl⟩
      have noZ' : c.toLower ≠ 'Z' := toLower_ne (by decide)
      have plus' := mt (toLower_eq_iff (by decide)).1 plus
      have minus' : ¬(c.toLower = '-' ∨ c.toLower = '\u2212') := by
        rwa [toLower_eq_iff (by decide), toLower_eq_iff (by decide)]
      grind

theorem separator_map_toLower (cs : List Char) :
    Read.separator (cs.map Char.toLower) = (Read.separator cs).map (List.map Char.toLower) := by
  cases cs with
  | nil => rfl
  | cons c cs =>
    by_cases letter : c.toLower = 't'
    · rcases eq_or_eq_of_toLower_eq 'T' (by decide) letter with rfl | rfl <;> rfl
    · have noT : c ≠ 'T' ∧ c ≠ 't' :=
        ⟨by rintro rfl; exact letter rfl, by rintro rfl; exact letter rfl⟩
      have noT' : c.toLower ≠ 'T' := toLower_ne (by decide)
      have space : c.toLower = ' ' ↔ c = ' ' := toLower_eq_iff (by decide)
      by_cases blank : c = ' '
      · subst blank
        rfl
      · simp [Read.separator, letter, noT, noT', space, blank]

/-! ### Whole texts -/

/-- A text denotes what it denotes in lower case. -/
theorem parse?_lowerAscii (text : String) : parse? (lowerAscii text) = parse? text := by
  have blanks (cs : List Char) : (cs.map Char.toLower).all isBlank = cs.all isBlank := by
    have same : isBlank ∘ Char.toLower = isBlank := funext isBlank_toLower
    rw [List.all_map, same]
  simp only [parse?, lowerAscii, String.toList_ofList, date_caseBlind text.toList]
  cases Read.date text.toList with
  | none => rfl
  | some found =>
    simp only [Option.map_some, Option.bind_eq_bind, Option.bind_some, separator_map_toLower]
    cases Read.separator found.2 with
    | none => rfl
    | some rest =>
      simp only [Option.map_some, Option.bind_some, time_caseBlind rest]
      cases Read.time rest with
      | none => rfl
      | some time =>
        simp only [Option.map_some, Option.bind_some, offset_caseBlind time.2]
        cases Read.offset time.2 with
        | none => rfl
        | some offset => simp only [Option.map_some, Option.bind_some, blanks]

end GatewayCache.Timestamp
