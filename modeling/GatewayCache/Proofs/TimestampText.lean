import GatewayCache.Timestamp.Reader
import GatewayCache.Timestamp.Writer
import Mathlib.Algebra.Group.Nat.Defs
import Mathlib.Control.Basic
import Mathlib.Data.Option.Basic

/-!
The text of an instant denotes that instant. Every number of the canonical form is read back where
it ends, because the mark behind it is no digit, or because it has as many digits as may stand
there.
-/
namespace GatewayCache.Timestamp

open Text

/-! ### Numbers -/

theorem ofDigits_eq (ds : List Char) : ofDigits ds = Nat.ofDigitChars 10 ds 0 :=
  Nat.ofDigitChars_eq_foldl.symm

theorem ofDigits_padded (width n : Nat) : ofDigits (Write.padded width n) = n := by
  rw [ofDigits_eq, Write.padded, Nat.ofDigitChars_append, Nat.ofDigitChars_replicate_zero,
    Nat.mul_zero, Nat.ofDigitChars_ten_toDigits]

theorem isDigit_of_mem_padded {width n : Nat} {c : Char} (h : c ∈ Write.padded width n) :
    c.isDigit := by
  rcases List.mem_append.mp h with zero | digit
  · rw [List.eq_of_mem_replicate zero]
    decide
  · exact Nat.isDigit_of_mem_toDigits (by decide) (by decide) digit

theorem padded_ne_nil (width n : Nat) : Write.padded width n ≠ [] := by
  simp [Write.padded, Nat.toDigits_ne_nil]

theorem length_padded {width n : Nat} (pos : 0 < width) (small : n < 10 ^ width) :
    (Write.padded width n).length = width := by
  have fits := (Nat.length_toDigits_le_iff (by decide) pos).mpr small
  simp only [Write.padded, List.length_append, List.length_replicate]
  omega

/-! ### Reading what is written -/

/-- The digits of a number stop before `rest`. -/
def StopsAt (rest : List Char) : Prop := ∀ c ∈ rest.head?, c.isDigit = false

theorem StopsAt.takeWhile {rest : List Char} (h : StopsAt rest) :
    rest.takeWhile Char.isDigit = [] := by
  cases rest with
  | nil => rfl
  | cons c cs => simp [h c rfl]

theorem StopsAt.dropWhile {rest : List Char} (h : StopsAt rest) :
    rest.dropWhile Char.isDigit = rest := by
  cases rest with
  | nil => rfl
  | cons c cs => simp [h c rfl]

theorem number_append {width : Nat} {ds rest : List Char} (digits : ∀ c ∈ ds, c.isDigit)
    (some_digit : ds ≠ []) (fits : ds.length ≤ width) (stops : StopsAt rest) :
    Read.number width (ds ++ rest) = some (ofDigits ds, rest) := by
  have front : dropBlank (ds ++ rest) = ds ++ rest := by
    cases ds with
    | nil => exact absurd rfl some_digit
    | cons c cs => exact dropBlank_cons _ (not_isBlank_of_isDigit (digits c List.mem_cons_self))
  -- Only `width` characters are looked at, so the mark behind the digits may lie out of sight.
  have behind : StopsAt (rest.take (width - ds.length)) := by
    intro c h
    refine stops c ?_
    cases rest with
    | nil => simp at h
    | cons d rest =>
      cases room : width - ds.length with
      | zero => simp [room] at h
      | succ n => simpa [room] using h
  have taken : ((ds ++ rest).take width).takeWhile Char.isDigit = ds := by
    rw [List.take_append, List.take_of_length_le fits, List.takeWhile_append_of_pos digits,
      behind.takeWhile, List.append_nil]
  simp [Read.number, front, taken, some_digit]

theorem number_padded {width n : Nat} {rest : List Char} (pos : 0 < width) (small : n < 10 ^ width)
    (stops : StopsAt rest) :
    Read.number width (Write.padded width n ++ rest) = some (n, rest) := by
  rw [number_append (fun _ => isDigit_of_mem_padded) (padded_ne_nil width n)
    (Nat.le_of_eq (length_padded pos small)) stops, ofDigits_padded]

theorem two_digits {n : Nat} {rest : List Char} (small : n < 100) (stops : StopsAt rest) :
    Read.number 2 (Write.padded 2 n ++ rest) = some (n, rest) :=
  number_padded (by decide) small stops

theorem mark_cons {c : Char} (rest : List Char) (h : isBlank c = false) :
    Read.mark c (c :: rest) = some rest := by
  simp [Read.mark, dropBlank_cons rest h]

theorem number_signed (n : Nat) {rest : List Char} (stops : StopsAt rest) :
    Read.number (Write.padded 4 n ++ rest).length (Write.padded 4 n ++ rest) = some (n, rest) := by
  rw [number_append (fun _ => isDigit_of_mem_padded) (padded_ne_nil 4 n) (by simp) stops,
    ofDigits_padded]

theorem head?_padded_append (width n : Nat) (rest : List Char) :
    (Write.padded width n ++ rest).head?.any Char.isDigit := by
  cases digits : Write.padded width n with
  | nil => exact absurd digits (padded_ne_nil width n)
  | cons c cs =>
    have digit : c ∈ Write.padded width n := digits ▸ List.mem_cons_self
    simpa using isDigit_of_mem_padded digit

theorem year_of_digit {cs : List Char} (h : cs.head?.any Char.isDigit) :
    Read.year cs = (Read.number 4 cs).map fun (n, rest) => ((n : Int), rest) := by
  cases cs with
  | nil => simp at h
  | cons c cs =>
    have digit : c.isDigit := by simpa using h
    have noMinus : c ≠ '-' := by rintro rfl; exact absurd digit (by decide)
    have noPlus : c ≠ '+' := by rintro rfl; exact absurd digit (by decide)
    rw [Read.year, dropBlank_cons cs (not_isBlank_of_isDigit digit)]
    -- The reader looks for a sign first.
    split
    next equal => exact absurd (List.cons.inj equal).1 noMinus
    next equal => exact absurd (List.cons.inj equal).1 noPlus
    next => cases Read.number 4 (c :: cs) <;> rfl

theorem year_render (y : Int) {rest : List Char} (stops : StopsAt rest) :
    Read.year (Write.year y ++ rest) = some (y, rest) := by
  unfold Write.year
  split
  next inside =>
    have small : y.toNat < 10 ^ 4 := by omega
    rw [year_of_digit (head?_padded_append 4 y.toNat rest), number_padded (by decide) small stops]
    simp [Int.toNat_of_nonneg inside.1]
  next outside =>
    have digits := head?_padded_append 4 y.natAbs rest
    -- With a sign, the year is read to the end of its digits, however many there are.
    split
    next negative =>
      have blank : isBlank '-' = false := by decide
      simp only [Read.year, List.cons_append, dropBlank_cons _ blank, digits, guard_true,
        number_signed y.natAbs stops, Option.pure_def, Option.bind_eq_bind, Option.bind_some,
        Option.some.injEq, Prod.mk.injEq, and_true]
      omega
    next positive =>
      have blank : isBlank '+' = false := by decide
      simp only [Read.year, List.cons_append, dropBlank_cons _ blank, digits, guard_true,
        number_signed y.natAbs stops, Option.pure_def, Option.bind_eq_bind, Option.bind_some,
        Option.some.injEq, Prod.mk.injEq, and_true]
      omega

theorem fraction_append {ds rest : List Char} (digits : ∀ c ∈ ds, c.isDigit) (some_digit : ds ≠ [])
    (stops : StopsAt rest) :
    Read.fraction ('.' :: ds ++ rest) = some (Read.nanos ds, rest) := by
  have taken : (ds ++ rest).takeWhile Char.isDigit = ds := by
    rw [List.takeWhile_append_of_pos digits, stops.takeWhile, List.append_nil]
  have left : (ds ++ rest).dropWhile Char.isDigit = rest := by
    rw [List.dropWhile_append_of_pos digits, stops.dropWhile]
  simp [Read.fraction, taken, left, some_digit]

theorem nanos_padded {width n : Nat} (pos : 0 < width) (few : width ≤ 9) (small : n < 10 ^ width) :
    Read.nanos (Write.padded width n) = n * 10 ^ (9 - width) := by
  have length := length_padded pos small
  have whole : (Write.padded width n).take 9 = Write.padded width n :=
    List.take_of_length_le (by omega)
  simp [Read.nanos, whole, length, ofDigits_padded]

theorem fraction_render {nano : Nat} (small : nano < 1000000000) {c : Char} {rest : List Char}
    (stops : c.isDigit = false) (noPoint : c ≠ '.') :
    Read.fraction (Write.fraction nano ++ c :: rest) = some (nano, c :: rest) := by
  have stopsAt : StopsAt (c :: rest) := by rintro d ⟨⟩; exact stops
  have read (width n : Nat) (pos : 0 < width) (few : width ≤ 9) (fits : n < 10 ^ width) :
      Read.fraction ('.' :: Write.padded width n ++ c :: rest) =
        some (n * 10 ^ (9 - width), c :: rest) := by
    rw [fraction_append (fun _ => isDigit_of_mem_padded) (padded_ne_nil width n) stopsAt,
      nanos_padded pos few fits]
  unfold Write.fraction
  split
  next zero => simp [Read.fraction, noPoint, zero]
  split
  next millis =>
    rw [read 3 (nano / 1000000) (by decide) (by decide) (by omega)]
    simp only [Option.some.injEq, Prod.mk.injEq, and_true]
    omega
  split
  next micros =>
    rw [read 6 (nano / 1000) (by decide) (by decide) (by omega)]
    simp only [Option.some.injEq, Prod.mk.injEq, and_true]
    omega
  next =>
    rw [read 9 nano (by decide) (by decide) (by omega)]
    simp

/-! ### The whole text -/

theorem stopsAt_cons {c : Char} {rest : List Char} (h : c.isDigit = false) :
    StopsAt (c :: rest) := by
  rintro d ⟨⟩
  exact h

theorem date_render {d : Date} (found : d.Exists) {c : Char} {rest : List Char}
    (stops : c.isDigit = false) :
    Read.date (Write.year d.year ++ '-' :: (Write.padded 2 d.month ++ '-' ::
      (Write.padded 2 d.day ++ c :: rest))) = some (d, c :: rest) := by
  obtain ⟨-, -, -, month, -, day⟩ := found
  have dayIn : d.day < 100 := by
    have : Date.daysIn d.year d.month ≤ 31 := by
      unfold Date.daysIn
      split
      · split <;> decide
      · split <;> decide
    omega
  have monthIn : d.month < 100 := by omega
  have blank : isBlank '-' = false := by decide
  have dash : '-'.isDigit = false := by decide
  simp only [Read.date, year_render d.year (stopsAt_cons dash), mark_cons _ blank,
    two_digits monthIn (stopsAt_cons dash), two_digits dayIn (stopsAt_cons stops),
    Option.bind_eq_bind, Option.bind_some]

theorem time_render {hour minute second nano : Nat} (h : hour < 24) (m : minute < 60)
    (s : second ≤ 60) (n : nano < 1000000000) {c : Char} (rest : List Char)
    (stops : c.isDigit = false) (noPoint : c ≠ '.') :
    Read.time (Write.padded 2 hour ++ ':' :: (Write.padded 2 minute ++ ':' ::
      (Write.padded 2 second ++ (Write.fraction nano ++ c :: rest)))) =
      some ((hour, minute, second, nano), c :: rest) := by
  have blank : isBlank ':' = false := by decide
  have colon : ':'.isDigit = false := by decide
  have behind : StopsAt (Write.fraction nano ++ c :: rest) := by
    unfold Write.fraction
    split
    · exact stopsAt_cons stops
    split
    · exact stopsAt_cons (by decide)
    split
    · exact stopsAt_cons (by decide)
    · exact stopsAt_cons (by decide)
  have h : hour < 100 := by omega
  have m : minute < 100 := by omega
  have s : second < 100 := by omega
  simp only [Read.time, mark_cons _ blank, two_digits h (stopsAt_cons colon),
    two_digits m (stopsAt_cons colon), two_digits s behind,
    fraction_render n stops noPoint, Option.bind_eq_bind, Option.bind_some]

theorem behind_zero {c : Civil} (found : c.Exists) : c.behind 0 = c := by
  obtain ⟨-, hour, minute, -, -⟩ := found
  obtain ⟨date, h, m, s, n⟩ := c
  simp only at hour minute
  -- The minute of the day stays within the day, so the date does not change.
  have early : ¬((h : Int) * 60 + m - 0 < 0) := by omega
  have late : ¬(1440 ≤ (h : Int) * 60 + m - 0) := by omega
  simp only [Civil.behind, if_neg early, if_neg late, Civil.mk.injEq, true_and, and_true]
  omega

theorem ofLocal?_zero (t : Timestamp) : ofLocal? t.utc 0 = some t := by
  rw [ofLocal?, if_pos t.exists_utc, behind_zero t.exists_utc, ofUtc?, dif_pos t.exists_utc]

/-- The text of an instant denotes it. -/
theorem parse?_render (t : Timestamp) : parse? t.render = some t := by
  obtain ⟨⟨date, hour, minute, second, nano⟩, found⟩ := t
  have ⟨ofDate, h, m, s, n⟩ := found
  have text : (render ⟨⟨date, hour, minute, second, nano⟩, found⟩).toList =
      Write.year date.year ++ '-' :: (Write.padded 2 date.month ++ '-' ::
        (Write.padded 2 date.day ++ 'T' :: (Write.padded 2 hour ++ ':' ::
          (Write.padded 2 minute ++ ':' :: (Write.padded 2 second ++
            (Write.fraction nano ++ ['Z'])))))) := by
    simp [render, Write.civil]
  have readDate (rest : List Char) : Read.date (Write.year date.year ++ '-' ::
      (Write.padded 2 date.month ++ '-' :: (Write.padded 2 date.day ++ 'T' :: rest))) =
        some (date, 'T' :: rest) :=
    date_render ofDate (by decide)
  have readTime := time_render h m s n (c := 'Z') [] (by decide) (by decide)
  have ofOffset : Read.offset ['Z'] = some (0, []) := by decide
  have separated (rest : List Char) : Read.separator ('T' :: rest) = some rest := rfl
  simp only [parse?, text, readDate, separated, readTime, ofOffset, Option.bind_eq_bind,
    Option.bind_some, List.all_nil, guard_true, Option.pure_def]
  exact ofLocal?_zero ⟨⟨date, hour, minute, second, nano⟩, found⟩

example : (Timestamp.epoch.render, parse? "1969-12-31 19:00:00-0500") =
    ("1970-01-01T00:00:00Z", some Timestamp.epoch) := by decide +kernel

end GatewayCache.Timestamp
