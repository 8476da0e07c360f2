/-! Unicode white space, and text without it at its ends. -/
namespace GatewayCache.Text

/-- The characters with the property White_Space. -/
def isBlank (c : Char) : Bool :=
  let n := c.toNat
  (0x09 ≤ n && n ≤ 0x0D) || n == 0x20 || n == 0x85 || n == 0xA0 || n == 0x1680 ||
    (0x2000 ≤ n && n ≤ 0x200A) || n == 0x2028 || n == 0x2029 || n == 0x202F || n == 0x205F ||
    n == 0x3000

theorem not_isBlank_of_isDigit {c : Char} (h : c.isDigit) : isBlank c = false := by
  have bounds : 48 ≤ c.toNat ∧ c.toNat ≤ 57 := by
    simp only [Char.isDigit, ge_iff_le, UInt32.le_iff_toNat_le, Bool.and_eq_true,
      decide_eq_true_eq] at h
    exact h
  simp only [isBlank, Bool.or_eq_false_iff, Bool.and_eq_false_iff, decide_eq_false_iff_not,
    beq_eq_false_iff_ne]
  omega

theorem not_isDigit_of_isBlank {c : Char} (h : isBlank c) : c.isDigit = false := by
  rw [Bool.eq_false_iff]
  intro digit
  rw [not_isBlank_of_isDigit digit] at h
  cases h

/-- The characters after leading white space. -/
def dropBlank (cs : List Char) : List Char := cs.dropWhile isBlank

theorem dropBlank_append {front : List Char} (blank : ∀ c ∈ front, isBlank c) (cs : List Char) :
    dropBlank (front ++ cs) = dropBlank cs :=
  List.dropWhile_append_of_pos blank

theorem dropBlank_cons {c : Char} (cs : List Char) (h : isBlank c = false) :
    dropBlank (c :: cs) = c :: cs := by
  simp [dropBlank, h]

/-- A text without the white space at its two ends. -/
def trim (s : String) : String :=
  String.ofList (dropBlank (dropBlank s.toList).reverse).reverse

/-- Whether a text holds nothing but white space. -/
def allBlank (s : String) : Bool := s.toList.all isBlank

/-- An upper-case ASCII letter becomes its lower-case form; every other character stays. -/
def lowerAscii (s : String) : String := String.ofList (s.toList.map Char.toLower)

end GatewayCache.Text
