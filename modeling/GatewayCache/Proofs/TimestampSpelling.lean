import GatewayCache.Proofs.Calendar
import GatewayCache.Proofs.LetterCase
import GatewayCache.Proofs.TimestampText
import Mathlib.Data.List.DropRight
import Mathlib.Data.List.Induction

/-!
The texts that denote instants, piece by piece. A text is read exactly when it is made of these
pieces and the date and time that they show exist, and what is read is the instant at which clocks
show them.
-/
namespace GatewayCache.Timestamp

open Text

/-! ### Pieces -/

/-- White space, or none. -/
abbrev Blanks := { cs : List Char // ∀ c ∈ cs, isBlank c }

/-- Digits, of which there is one at least. -/
structure Digits where
  chars : List Char
  digit : ∀ c ∈ chars, c.isDigit
  some_digit : chars ≠ []

def Digits.value (ds : Digits) : Nat := ofDigits ds.chars

/-- A number of at most `width` digits, behind white space. -/
structure Numeral (width : Nat) where
  blanks : Blanks
  digits : Digits
  fits : digits.chars.length ≤ width

namespace Numeral

variable {width : Nat}

def text (n : Numeral width) : List Char := n.blanks.val ++ n.digits.chars

def value (n : Numeral width) : Nat := n.digits.value

end Numeral

/-- A number of one or two digits behind a mark. -/
structure Marked (mark : Char) where
  blanks : Blanks
  number : Numeral 2

namespace Marked

variable {mark : Char}

def text (m : Marked mark) : List Char := m.blanks.val ++ mark :: m.number.text

def value (m : Marked mark) : Nat := m.number.value

end Marked

/-- A year of four digits at most, or with a sign and then of any number of digits. -/
inductive YearText where
  | plain (number : Numeral 4)
  | signed (blanks : Blanks) (negative : Bool) (digits : Digits)

namespace YearText

def text : YearText → List Char
  | plain number => number.text
  | signed blanks negative digits =>
    blanks.val ++ (if negative then '-' else '+') :: digits.chars

def value : YearText → Int
  | plain number => number.value
  | signed _ negative digits => if negative then -digits.value else digits.value

end YearText

/-- What stands between date and time. -/
inductive Separator where
  | upper
  | lower
  | space

def Separator.char : Separator → Char
  | upper => 'T'
  | lower => 't'
  | space => ' '

/-- Two digits that make a number below `bound`. -/
structure TwoDigits (bound : Nat) where
  tens : Char
  ones : Char
  digit : tens.isDigit ∧ ones.isDigit
  inside : ofDigits [tens, ones] < bound

def TwoDigits.value {bound : Nat} (n : TwoDigits bound) : Nat := ofDigits [n.tens, n.ones]

/-- The sign of an offset; there are two characters for the negative one. -/
inductive Sign where
  | plus
  | hyphen
  | minus

namespace Sign

def char : Sign → Char
  | plus => '+'
  | hyphen => '-'
  | minus => '\u2212'

def apply (n : Nat) : Sign → Int
  | plus => n
  | hyphen | minus => -n

end Sign

/-- An offset from UTC: a name of UTC, or hours and minutes. -/
inductive Zone where
  | utc (name : List Char) (spelled : name.map Char.toLower = ['u', 't', 'c'])
  | zulu (capital : Bool)
  | shifted (sign : Sign) (hours : TwoDigits 24)
      (between : { cs : List Char // ∀ c ∈ cs, c == ':' || isBlank c }) (minutes : TwoDigits 60)

namespace Zone

def text : Zone → List Char
  | utc name _ => name
  | zulu capital => [if capital then 'Z' else 'z']
  | shifted sign hours between minutes =>
    sign.char :: hours.tens :: hours.ones :: (between.val ++ [minutes.tens, minutes.ones])

/-- The offset in minutes. -/
def offset : Zone → Int
  | utc _ _ | zulu _ => 0
  | shifted sign hours _ minutes => sign.apply (hours.value * 60 + minutes.value)

theorem offset_bounds (z : Zone) : -1440 < z.offset ∧ z.offset < 1440 := by
  cases z with
  | utc | zulu => simp [offset]
  | shifted sign hours between minutes =>
    have h : hours.value < 24 := hours.inside
    have m : minutes.value < 60 := minutes.inside
    cases sign <;> simp only [offset, Sign.apply] <;> omega

end Zone

/-- The pieces of a text that denotes an instant. -/
structure Spelling where
  year : YearText
  month : Marked '-'
  day : Marked '-'
  separator : Separator
  hour : Numeral 2
  minute : Marked ':'
  second : Marked ':'
  /-- The digits of the fraction of a second, if there is one. -/
  fraction : Option Digits
  blanks : Blanks
  zone : Zone
  final : Blanks

/-- The text of the fraction, with the point in front of it. -/
def fractionText : Option Digits → List Char
  | none => []
  | some ds => '.' :: ds.chars

/-- The whole nanoseconds in a fraction of a second. -/
def fractionNanos : Option Digits → Nat
  | none => 0
  | some ds => ds.value * 10 ^ 9 / 10 ^ ds.chars.length

namespace Spelling

def text (sp : Spelling) : String :=
  String.ofList (sp.year.text ++ (sp.month.text ++ (sp.day.text ++ sp.separator.char ::
    (sp.hour.text ++ (sp.minute.text ++ (sp.second.text ++ (fractionText sp.fraction ++
      (sp.blanks.val ++ (sp.zone.text ++ sp.final.val)))))))))

/-- The date and time that clocks show at the offset. -/
def shown (sp : Spelling) : Civil where
  date := ⟨sp.year.value, sp.month.value, sp.day.value⟩
  hour := sp.hour.value
  minute := sp.minute.value
  second := sp.second.value
  nano := fractionNanos sp.fraction

/-- The instant at which clocks show it. -/
def instant (sp : Spelling) : Instant := sp.shown.instant sp.zone.offset

end Spelling

/-! ### Fractions -/

theorem ofDigits_append (ds es : List Char) :
    ofDigits (ds ++ es) = 10 ^ es.length * ofDigits ds + ofDigits es := by
  rw [ofDigits_eq, ofDigits_eq, ofDigits_eq, Nat.ofDigitChars_append,
    Nat.ofDigitChars_eq_ofDigitChars_zero]

theorem ofDigits_lt {ds : List Char} (digits : ∀ c ∈ ds, c.isDigit) :
    ofDigits ds < 10 ^ ds.length := by
  -- By induction from the end, as the last digit counts single units.
  induction ds using List.reverseRecOn with
  | nil => decide
  | append_singleton ds c ih =>
    have last : ofDigits [c] < 10 := by
      have value : ofDigits [c] = c.toNat - 48 := by simp [ofDigits, digitValue]
      have high : c.toNat ≤ 57 := (Char.isDigit_iff_toNat.1 (digits c List.mem_concat_self)).2
      omega
    have front := ih fun d member => digits d (List.mem_append_left _ member)
    rw [ofDigits_append, List.length_append, List.length_singleton, Nat.pow_succ]
    omega

/-- The digits behind the ninth are cut off. -/
theorem nanos_eq {ds : List Char} (digits : ∀ c ∈ ds, c.isDigit) :
    Read.nanos ds = ofDigits ds * 10 ^ 9 / 10 ^ ds.length := by
  simp only [Read.nanos, List.length_take]
  by_cases few : ds.length ≤ 9
  -- Up to nine digits the value is scaled up; of more digits the rest is below one nanosecond.
  · have whole : 10 ^ 9 = 10 ^ (9 - ds.length) * 10 ^ ds.length := by
      rw [← Nat.pow_add, Nat.sub_add_cancel few]
    rw [List.take_of_length_le few, Nat.min_eq_right few, whole, ← Nat.mul_assoc,
      Nat.mul_div_cancel _ (Nat.pow_pos (by decide))]
    rfl
  · have split : ofDigits ds =
        10 ^ (ds.length - 9) * ofDigits (ds.take 9) + ofDigits (ds.drop 9) := by
      rw [← List.length_drop, ← ofDigits_append, List.take_append_drop]
    have rest : ofDigits (ds.drop 9) < 10 ^ (ds.length - 9) := by
      rw [← List.length_drop]
      exact ofDigits_lt fun c member => digits c (List.mem_of_mem_drop member)
    have length : 10 ^ ds.length = 10 ^ (ds.length - 9) * 10 ^ 9 := by
      rw [← Nat.pow_add, Nat.sub_add_cancel (by omega)]
    have pos : 0 < 10 ^ (ds.length - 9) := Nat.pow_pos (by decide)
    rw [length, Nat.mul_div_mul_right _ _ (by decide), split, Nat.mul_add_div pos,
      Nat.div_eq_of_lt rest, Nat.min_eq_left (by omega)]
    simp

theorem nanos_fraction (ds : Digits) : Read.nanos ds.chars = fractionNanos (some ds) :=
  nanos_eq ds.digit

/-! ### Reading the pieces -/

/-- White space does not prolong a number. -/
theorem stopsAt_blanks (blanks : Blanks) {cs : List Char} (stops : StopsAt cs) :
    StopsAt (blanks.val ++ cs) := by
  obtain ⟨blanks, isBlank⟩ := blanks
  cases blanks with
  | nil => exact stops
  | cons c rest => exact stopsAt_cons (not_isDigit_of_isBlank (isBlank c List.mem_cons_self))

theorem number_text {width : Nat} (n : Numeral width) {rest : List Char} (stops : StopsAt rest) :
    Read.number width (n.text ++ rest) = some (n.value, rest) := by
  have read := number_append n.digits.digit n.digits.some_digit n.fits stops
  rw [Numeral.text, List.append_assoc, Read.number,
    dropBlank_append n.blanks.property]
  exact read

theorem mark_text {mark : Char} (m : Marked mark) (rest : List Char) (h : isBlank mark = false) :
    Read.mark mark (m.text ++ rest) = some (m.number.text ++ rest) := by
  rw [Marked.text, List.append_assoc, Read.mark, dropBlank_append m.blanks.property]
  exact mark_cons _ h

theorem stopsAt_marked {mark : Char} (m : Marked mark) (rest : List Char)
    (h : mark.isDigit = false) : StopsAt (m.text ++ rest) := by
  rw [Marked.text, List.append_assoc]
  exact stopsAt_blanks m.blanks (stopsAt_cons h)

theorem year_text (y : YearText) {rest : List Char} (stops : StopsAt rest) :
    Read.year (y.text ++ rest) = some (y.value, rest) := by
  have head {ds : List Char} (digits : ∀ c ∈ ds, c.isDigit) (some_digit : ds ≠ []) :
      (ds ++ rest).head?.any Char.isDigit := by
    cases ds with
    | nil => exact absurd rfl some_digit
    | cons c cs => exact digits c List.mem_cons_self
  cases y with
  | plain n =>
    have digits := head n.digits.digit n.digits.some_digit
    have read := number_append n.digits.digit n.digits.some_digit n.fits stops
    have year := year_of_digit digits
    rw [read] at year
    rw [YearText.text, Numeral.text, List.append_assoc, Read.year,
      dropBlank_append n.blanks.property]
    exact year
  | signed blanks negative digits =>
    have read : Read.number (digits.chars ++ rest).length (digits.chars ++ rest) =
        some (digits.value, rest) :=
      number_append digits.digit digits.some_digit (by simp) stops
    have first := head digits.digit digits.some_digit
    rw [YearText.text, List.append_assoc, Read.year, dropBlank_append blanks.property]
    cases negative with
    | false =>
      have blank : isBlank '+' = false := by decide
      simp only [Bool.false_eq_true, if_false, List.cons_append, dropBlank_cons _ blank, first,
        guard_true, read, Option.pure_def, Option.bind_eq_bind, Option.bind_some, YearText.value]
    | true =>
      have blank : isBlank '-' = false := by decide
      simp only [if_true, List.cons_append, dropBlank_cons _ blank, first,
        guard_true, read, Option.pure_def, Option.bind_eq_bind, Option.bind_some, YearText.value]

theorem fraction_text (f : Option Digits) {rest : List Char} (stops : StopsAt rest)
    (noPoint : ∀ c ∈ rest.head?, c ≠ '.') :
    Read.fraction (fractionText f ++ rest) = some (fractionNanos f, rest) := by
  cases f with
  | some ds =>
    rw [← nanos_fraction]
    exact fraction_append ds.digit ds.some_digit stops
  | none =>
    cases rest with
    | nil => rfl
    | cons c rest =>
      have other := noPoint c rfl
      simp [fractionText, Read.fraction, other, fractionNanos]

theorem separator_text (sep : Separator) (rest : List Char) :
    Read.separator (sep.char :: rest) = some rest := by
  cases sep <;> rfl

theorem hoursMinutes_text (hours : TwoDigits 24)
    (between : { cs : List Char // ∀ c ∈ cs, c == ':' || isBlank c }) (minutes : TwoDigits 60)
    (rest : List Char) :
    Read.hoursMinutes (hours.tens :: hours.ones ::
      (between.val ++ minutes.tens :: minutes.ones :: rest)) =
        some (hours.value * 60 + minutes.value, rest) := by
  have digit : (minutes.tens == ':' || isBlank minutes.tens) = false := by
    have notBlank := not_isBlank_of_isDigit minutes.digit.1
    have notColon : minutes.tens ≠ ':' := by
      intro colon
      have := minutes.digit.1
      rw [colon] at this
      exact absurd this (by decide)
    simp [notBlank, notColon]
  have skipped : (between.val ++ minutes.tens :: minutes.ones :: rest).dropWhile
      (fun c => c == ':' || isBlank c) = minutes.tens :: minutes.ones :: rest := by
    rw [List.dropWhile_append_of_pos between.property, List.dropWhile_cons_of_neg (by simp [digit])]
  have inside := hours.inside
  have inside' := minutes.inside
  simp only [Read.hoursMinutes, skipped, List.all_cons, List.all_nil, hours.digit.1, hours.digit.2,
    minutes.digit.1, minutes.digit.2, inside, inside', decide_true, Bool.and_true, if_true]
  rfl

/-- An offset starts with a character that cannot belong to what stands in front of it. -/
theorem Zone.exists_head (z : Zone) : ∃ c cs, z.text = c :: cs ∧ isBlank c = false ∧
    c.isDigit = false ∧ c ≠ '.' := by
  cases z with
  | utc name spelled =>
    cases name with
    | nil => cases spelled
    | cons c cs =>
      refine ⟨c, cs, rfl, ?_⟩
      have letter := eq_or_eq_of_toLower_eq 'U' (by decide) (List.cons.inj spelled).1
      rcases letter with rfl | rfl <;> decide
  | zulu capital => cases capital <;> exact ⟨_, _, rfl, by decide⟩
  | shifted sign hours between minutes => cases sign <;> exact ⟨_, _, rfl, by decide⟩

theorem startsUtc_cons {c : Char} (cs : List Char) (h : c.toLower ≠ 'u') :
    Read.startsUtc (c :: cs) = false := by
  simp [Read.startsUtc, h]

theorem offset_text (blanks : Blanks) (z : Zone) (rest : List Char) :
    Read.offset (blanks.val ++ (z.text ++ rest)) = some (z.offset, rest) := by
  obtain ⟨c, cs, text, notBlank, -⟩ := z.exists_head
  have front : dropBlank (blanks.val ++ (z.text ++ rest)) = z.text ++ rest := by
    rw [dropBlank_append blanks.property, text]
    exact dropBlank_cons _ notBlank
  rw [Read.offset, front]
  cases z with
  | utc name spelled =>
    have three : name.length = 3 := by simpa using congrArg List.length spelled
    have starts : Read.startsUtc (name ++ rest) = true := by
      rw [Read.startsUtc, List.take_left' three, spelled]
      rfl
    simp only [Zone.text, starts, if_true, List.drop_left' three]
    rfl
  | zulu capital =>
    cases capital with
    | false => simp [Zone.text, startsUtc_cons (c := 'z') rest (by decide), Zone.offset]
    | true => simp [Zone.text, startsUtc_cons (c := 'Z') rest (by decide), Zone.offset]
  | shifted sign hours between minutes =>
    have read := hoursMinutes_text hours between minutes rest
    cases sign with
    | plus =>
      simp [Zone.text, Sign.char, startsUtc_cons (c := '+') _ (by decide), read, Zone.offset,
        Sign.apply]
    | hyphen =>
      simp [Zone.text, Sign.char, startsUtc_cons (c := '-') _ (by decide), read, Zone.offset,
        Sign.apply]
    | minus =>
      simp [Zone.text, Sign.char, startsUtc_cons (c := '\u2212') _ (by decide), read, Zone.offset,
        Sign.apply]

/-! ### Reading a whole text -/

variable (sp : Spelling)

theorem date_text {rest : List Char} (stops : StopsAt rest) :
    Read.date (sp.year.text ++ (sp.month.text ++ (sp.day.text ++ rest))) =
      some (sp.shown.date, rest) := by
  have hyphen : '-'.isDigit = false ∧ isBlank '-' = false := by decide
  have dayStops := stopsAt_marked sp.day rest hyphen.1
  simp only [Read.date, year_text _ (stopsAt_marked sp.month _ hyphen.1),
    mark_text sp.month _ hyphen.2, number_text sp.month.number dayStops,
    mark_text sp.day _ hyphen.2, number_text sp.day.number stops, Option.bind_eq_bind,
    Option.bind_some]
  rfl

theorem time_text {rest : List Char} (stops : StopsAt rest) (noPoint : ∀ c ∈ rest.head?, c ≠ '.') :
    Read.time (sp.hour.text ++ (sp.minute.text ++ (sp.second.text ++
      (fractionText sp.fraction ++ rest)))) =
        some ((sp.shown.hour, sp.shown.minute, sp.shown.second, sp.shown.nano), rest) := by
  have colon : ':'.isDigit = false ∧ isBlank ':' = false := by decide
  have behind : StopsAt (fractionText sp.fraction ++ rest) := by
    cases sp.fraction with
    | none => exact stops
    | some ds => exact stopsAt_cons (by decide)
  simp only [Read.time, number_text sp.hour (stopsAt_marked sp.minute _ colon.1),
    mark_text sp.minute _ colon.2,
    number_text sp.minute.number (stopsAt_marked sp.second _ colon.1),
    mark_text sp.second _ colon.2, number_text sp.second.number behind,
    fraction_text sp.fraction stops noPoint, Option.bind_eq_bind, Option.bind_some]
  rfl

/-- A text of pieces denotes what clocks show, if that exists. -/
theorem parse?_text : parse? sp.text = ofLocal? sp.shown sp.zone.offset := by
  obtain ⟨c, cs, zoneText, -, notDigit, notPoint⟩ := sp.zone.exists_head
  have behindDay : StopsAt (sp.separator.char :: (sp.hour.text ++ (sp.minute.text ++
      (sp.second.text ++ (fractionText sp.fraction ++
        (sp.blanks.val ++ (sp.zone.text ++ sp.final.val))))))) := by
    cases sp.separator <;> exact stopsAt_cons (by decide)
  have behindTime : StopsAt (sp.blanks.val ++ (sp.zone.text ++ sp.final.val)) := by
    rw [zoneText]
    exact stopsAt_blanks sp.blanks (stopsAt_cons notDigit)
  -- A point would start a fraction, but white space comes first or else the offset.
  have noPoint : ∀ d ∈ (sp.blanks.val ++ (sp.zone.text ++ sp.final.val)).head?, d ≠ '.' := by
    rw [zoneText]
    rintro d first rfl
    cases blanks : sp.blanks.val with
    | nil =>
      rw [blanks] at first
      exact notPoint (Option.some.inj first)
    | cons e rest =>
      have blank := sp.blanks.property e (blanks ▸ List.mem_cons_self)
      rw [blanks] at first
      rw [Option.some.inj first] at blank
      exact absurd blank (by decide)
  -- Now every piece is read up to where the next one starts.
  have final : sp.final.val.all isBlank = true := List.all_eq_true.2 sp.final.property
  simp only [parse?, Spelling.text, String.toList_ofList, date_text sp behindDay,
    separator_text, time_text sp behindTime noPoint, offset_text, final, guard_true,
    Option.bind_eq_bind, Option.bind_some, Option.pure_def]

/-! ### The pieces of what is read -/

section
variable {input rest : List Char}

theorem exists_blanks (input : List Char) :
    ∃ blanks : Blanks, input = blanks.val ++ dropBlank input :=
  ⟨⟨input.takeWhile isBlank, fun _ => List.mem_takeWhile_imp⟩,
    List.takeWhile_append_dropWhile.symm⟩

theorem exists_numeral {width n : Nat} (read : Read.number width input = some (n, rest)) :
    ∃ number : Numeral width, input = number.text ++ rest ∧ number.value = n := by
  obtain ⟨blanks, front⟩ := exists_blanks input
  simp only [Read.number] at read
  generalize dropBlank input = cs at front read
  -- The digits are what is taken of the text behind the white space, and no more than fit.
  have taken : (cs.take width).takeWhile Char.isDigit <+: cs :=
    (List.takeWhile_prefix _).trans (List.take_prefix ..)
  have fits : ((cs.take width).takeWhile Char.isDigit).length ≤ width :=
    (List.takeWhile_prefix _).length_le.trans (List.length_take_le ..)
  split at read
  next => cases read
  next some_digit =>
    cases read
    refine ⟨⟨blanks, ⟨_, fun _ => List.mem_takeWhile_imp, ?_⟩, fits⟩, ?_, rfl⟩
    · simpa using some_digit
    · rw [Numeral.text, List.append_assoc, List.prefix_iff_eq_append.1 taken, front]

theorem eq_of_mark {mark : Char} (read : Read.mark mark input = some rest) :
    ∃ blanks : Blanks, input = blanks.val ++ mark :: rest := by
  obtain ⟨blanks, front⟩ := exists_blanks input
  refine ⟨blanks, front.trans ?_⟩
  unfold Read.mark at read
  split at read
  next c cs first =>
    split at read
    next same =>
      cases read
      rw [first, same]
    next => cases read
  next => cases read

theorem exists_marked {mark : Char} {n : Nat} {between : List Char}
    (marked : Read.mark mark input = some between) (read : Read.number 2 between = some (n, rest)) :
    ∃ m : Marked mark, input = m.text ++ rest ∧ m.value = n := by
  obtain ⟨blanks, rfl⟩ := eq_of_mark marked
  obtain ⟨number, rfl, value⟩ := exists_numeral read
  exact ⟨⟨blanks, number⟩, by simp [Marked.text], value⟩

/-- Behind a sign the digits come at once. -/
theorem exists_digits {n : Nat} (first : input.head?.any Char.isDigit)
    (read : Read.number input.length input = some (n, rest)) :
    ∃ digits : Digits, input = digits.chars ++ rest ∧ digits.value = n := by
  obtain ⟨number, text, value⟩ := exists_numeral read
  refine ⟨number.digits, ?_, value⟩
  obtain ⟨⟨blanks, isBlank⟩, digits, fits⟩ := number
  -- The first character is a digit, so there is no white space in front.
  cases blanks with
  | nil => exact text
  | cons c cs =>
    have blank := isBlank c List.mem_cons_self
    rw [text] at first
    rw [not_isBlank_of_isDigit first] at blank
    cases blank

theorem number_dropBlank (width : Nat) (input : List Char) :
    Read.number width (dropBlank input) = Read.number width input := by
  have again : dropBlank (dropBlank input) = dropBlank input := List.dropWhile_idempotent _ _
  rw [Read.number, again, Read.number]

theorem exists_year {y : Int} (read : Read.year input = some (y, rest)) :
    ∃ year : YearText, input = year.text ++ rest ∧ year.value = y := by
  obtain ⟨blanks, front⟩ := exists_blanks input
  have signed (negative : Bool) {digits : List Char} {n : Nat}
      (sign : dropBlank input = (if negative then '-' else '+') :: digits)
      (first : digits.head?.any Char.isDigit)
      (number : Read.number digits.length digits = some (n, rest)) :
      ∃ year : YearText, input = year.text ++ rest ∧
        year.value = if negative then -(n : Int) else n := by
    obtain ⟨ds, rfl, rfl⟩ := exists_digits first number
    refine ⟨.signed blanks negative ds, front.trans ?_, rfl⟩
    rw [sign, YearText.text, List.append_assoc, List.cons_append]
  -- The reader looks for a minus, for a plus, and else reads a plain number.
  unfold Read.year at read
  split at read
  next digits sign =>
    simp only [Option.bind_eq_bind, Option.bind_eq_some_iff, Option.guard_eq_some'] at read
    obtain ⟨-, first, ⟨n, _⟩, number, same⟩ := read
    cases same
    exact signed true sign first number
  next digits sign =>
    simp only [Option.bind_eq_bind, Option.bind_eq_some_iff, Option.guard_eq_some'] at read
    obtain ⟨-, first, ⟨n, _⟩, number, same⟩ := read
    cases same
    exact signed false sign first number
  next =>
    simp only [Option.bind_eq_bind, Option.bind_eq_some_iff] at read
    obtain ⟨⟨n, _⟩, number, same⟩ := read
    cases same
    rw [number_dropBlank] at number
    obtain ⟨number, text, value⟩ := exists_numeral number
    exact ⟨.plain number, text, congrArg Nat.cast value⟩

theorem exists_fraction {nano : Nat} (read : Read.fraction input = some (nano, rest)) :
    ∃ f : Option Digits, input = fractionText f ++ rest ∧ fractionNanos f = nano := by
  unfold Read.fraction at read
  split at read
  next cs =>
    simp only at read
    split at read
    next => cases read
    next some_digit =>
      cases read
      let ds : Digits := ⟨cs.takeWhile Char.isDigit, fun _ => List.mem_takeWhile_imp, by
        simpa using some_digit⟩
      refine ⟨some ds, ?_, (nanos_fraction ds).symm⟩
      rw [fractionText, List.cons_append, List.takeWhile_append_dropWhile]
  next =>
    cases read
    exact ⟨none, rfl, rfl⟩

theorem exists_separator (read : Read.separator input = some rest) :
    ∃ sep : Separator, input = sep.char :: rest := by
  unfold Read.separator at read
  split at read
  next c cs =>
    split at read
    next mark =>
      cases read
      simp only [Bool.or_eq_true, decide_eq_true_eq] at mark
      rcases mark with (rfl | rfl) | rfl
      · exact ⟨.upper, rfl⟩
      · exact ⟨.lower, rfl⟩
      · exact ⟨.space, rfl⟩
    next => cases read
  next => cases read

theorem exists_hoursMinutes {n : Nat} (read : Read.hoursMinutes input = some (n, rest))
    (sign : Sign) : ∃ z : Zone, sign.char :: input = z.text ++ rest ∧ z.offset = sign.apply n := by
  unfold Read.hoursMinutes at read
  split at read
  next h h' cs =>
    split at read
    next m m' left behind =>
      split at read
      next valid =>
        cases read
        simp only [List.all_cons, List.all_nil, Bool.and_true, Bool.and_eq_true,
          decide_eq_true_eq] at valid
        obtain ⟨⟨⟨hh, hh', mm, mm'⟩, minutes⟩, hours⟩ := valid
        let between : { cs : List Char // ∀ c ∈ cs, c == ':' || isBlank c } :=
          ⟨cs.takeWhile fun c => c == ':' || isBlank c, fun _ => List.mem_takeWhile_imp⟩
        refine ⟨.shifted sign ⟨h, h', ⟨hh, hh'⟩, hours⟩ between ⟨m, m', ⟨mm, mm'⟩, minutes⟩, ?_,
          rfl⟩
        have whole : between.val ++ m :: m' :: rest = cs := by
          rw [← behind]
          exact List.takeWhile_append_dropWhile
        simp [Zone.text, whole]
      next => cases read
    next => cases read
  next => cases read

theorem exists_zone {offset : Int} (read : Read.offset input = some (offset, rest)) :
    ∃ (blanks : Blanks) (z : Zone), input = blanks.val ++ (z.text ++ rest) ∧ z.offset = offset := by
  obtain ⟨blanks, front⟩ := exists_blanks input
  suffices ∃ z : Zone, dropBlank input = z.text ++ rest ∧ z.offset = offset by
    obtain ⟨z, text, value⟩ := this
    exact ⟨blanks, z, text ▸ front, value⟩
  simp only [Read.offset] at read
  generalize dropBlank input = cs at read
  split at read
  next starts =>
    cases read
    refine ⟨.utc (cs.take 3) (eq_of_beq starts), (List.take_append_drop 3 cs).symm, rfl⟩
  split at read
  next => cases read; exact ⟨.zulu true, rfl, rfl⟩
  next => cases read; exact ⟨.zulu false, rfl, rfl⟩
  next cs =>
    simp only [Option.bind_eq_bind, Option.bind_eq_some_iff] at read
    obtain ⟨⟨n, _⟩, number, same⟩ := read
    cases same
    exact exists_hoursMinutes number .plus
  next sign cs _ _ _ =>
    split at read
    next negative =>
      simp only [Option.bind_eq_bind, Option.bind_eq_some_iff] at read
      obtain ⟨⟨n, _⟩, number, same⟩ := read
      cases same
      simp only [Bool.or_eq_true, decide_eq_true_eq] at negative
      rcases negative with rfl | rfl
      · exact exists_hoursMinutes number .hyphen
      · exact exists_hoursMinutes number .minus
    next => cases read
  next => cases read

theorem exists_date {d : Date} (read : Read.date input = some (d, rest)) :
    ∃ (year : YearText) (month day : Marked '-'),
      input = year.text ++ (month.text ++ (day.text ++ rest)) := by
  simp only [Read.date, Option.bind_eq_bind, Option.bind_eq_some_iff] at read
  obtain ⟨⟨_, _⟩, ofYear, _, dash, ⟨_, _⟩, ofMonth, _, dash', ⟨_, _⟩, ofDay, same⟩ := read
  cases same
  obtain ⟨year, rfl, -⟩ := exists_year ofYear
  obtain ⟨month, rfl, -⟩ := exists_marked dash ofMonth
  obtain ⟨day, rfl, -⟩ := exists_marked dash' ofDay
  exact ⟨year, month, day, rfl⟩

theorem exists_time {time : Nat × Nat × Nat × Nat} (read : Read.time input = some (time, rest)) :
    ∃ (hour : Numeral 2) (minute second : Marked ':') (f : Option Digits),
      input = hour.text ++ (minute.text ++ (second.text ++ (fractionText f ++ rest))) := by
  simp only [Read.time, Option.bind_eq_bind, Option.bind_eq_some_iff] at read
  obtain ⟨⟨_, _⟩, ofHour, _, colon, ⟨_, _⟩, ofMinute, _, colon', ⟨_, _⟩, ofSecond, ⟨_, _⟩,
    ofFraction, same⟩ := read
  cases same
  obtain ⟨hour, rfl, -⟩ := exists_numeral ofHour
  obtain ⟨minute, rfl, -⟩ := exists_marked colon ofMinute
  obtain ⟨second, rfl, -⟩ := exists_marked colon' ofSecond
  obtain ⟨f, rfl, -⟩ := exists_fraction ofFraction
  exact ⟨hour, minute, second, f, rfl⟩

end

/-- A text that denotes an instant is made of pieces. -/
theorem exists_spelling {text : String} {t : Timestamp} (read : parse? text = some t) :
    ∃ sp : Spelling, sp.text = text := by
  simp only [parse?, Option.bind_eq_bind, Option.bind_eq_some_iff, Option.guard_eq_some'] at read
  obtain ⟨_, date, _, separator, _, time, _, offset, -, final, -⟩ := read
  obtain ⟨year, month, day, whole⟩ := exists_date date
  obtain ⟨sep, behindDate⟩ := exists_separator separator
  obtain ⟨hour, minute, second, fraction, behindSeparator⟩ := exists_time time
  obtain ⟨blanks, zone, behindTime, -⟩ := exists_zone offset
  -- Each reader leaves what the next one reads, so the pieces lie one behind the other.
  refine ⟨⟨year, month, day, sep, hour, minute, second, fraction, blanks, zone,
    ⟨_, List.all_eq_true.1 final⟩⟩, String.toList_injective ?_⟩
  rw [Spelling.text, String.toList_ofList, ← behindTime, ← behindSeparator, ← behindDate, whole]

/--
A text denotes an instant exactly when it is made of pieces that show an existing date and time, and
then it is the instant at which clocks show them.
-/
theorem parse?_eq_some_iff {text : String} {t : Timestamp} :
    parse? text = some t ↔
      ∃ sp : Spelling, sp.text = text ∧ sp.shown.Exists ∧ t.instant = sp.instant := by
  have denotes (sp : Spelling) :
      parse? sp.text = some t ↔ sp.shown.Exists ∧ t.instant = sp.instant := by
    obtain ⟨low, high⟩ := sp.zone.offset_bounds
    rw [parse?_text, ofLocal?_eq_some_iff low high]
    rfl
  constructor
  · intro read
    obtain ⟨sp, rfl⟩ := exists_spelling read
    exact ⟨sp, rfl, (denotes sp).1 read⟩
  · rintro ⟨sp, rfl, found⟩
    exact (denotes sp).2 found

end GatewayCache.Timestamp
