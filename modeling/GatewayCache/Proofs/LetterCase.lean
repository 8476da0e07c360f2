import GatewayCache.Text.Blank
import Mathlib.Data.List.TakeWhile

/-!
ASCII letters in lower case. Lowering changes nothing about digits, white space and marks, and what
is a letter afterwards was that letter before, in one case or the other.
-/
namespace GatewayCache.Text

theorem toNat_toLower (c : Char) :
    c.toLower.toNat = if 65 ≤ c.toNat ∧ c.toNat ≤ 90 then c.toNat + 32 else c.toNat := by
  have upper : c.val ≥ 'A'.val ∧ c.val ≤ 'Z'.val ↔ 65 ≤ c.toNat ∧ c.toNat ≤ 90 := Iff.rfl
  delta Char.toLower
  simp only [upper]
  split
  next range =>
    have sum : (c.val + ('a'.val - 'A'.val)).toNat = (c.toNat + 32) % 2 ^ 32 := rfl
    exact sum.trans (Nat.mod_eq_of_lt (by omega))
  next => rfl

theorem toLower_toLower (c : Char) : c.toLower.toLower = c.toLower := by
  rw [← Char.toNat_inj, toNat_toLower, toNat_toLower]
  split
  · rw [if_neg (by omega)]
  · rfl

theorem toLower_ne {c upper : Char} (capital : upper.toLower ≠ upper) : c.toLower ≠ upper := by
  rintro rfl
  exact capital (toLower_toLower c)

theorem isAlpha_iff (c : Char) :
    c.isAlpha ↔ (65 ≤ c.toNat ∧ c.toNat ≤ 90) ∨ (97 ≤ c.toNat ∧ c.toNat ≤ 122) := by
  delta Char.isAlpha Char.isUpper Char.isLower
  simp [UInt32.le_iff_toNat_le, ← Char.toNat_val]

theorem toLower_eq_iff {c d : Char} (noLetter : d.isAlpha = false) : c.toLower = d ↔ c = d := by
  rw [Bool.eq_false_iff, Ne, isAlpha_iff] at noLetter
  rw [← Char.toNat_inj, ← Char.toNat_inj, toNat_toLower]
  split <;> omega

theorem toLower_eq_self {c : Char} (noLetter : c.isAlpha = false) : c.toLower = c :=
  (toLower_eq_iff noLetter).2 rfl

theorem eq_or_eq_of_toLower_eq (upper : Char) {c lower : Char}
    (pair : upper.toNat + 32 = lower.toNat) (h : c.toLower = lower) : c = upper ∨ c = lower := by
  rw [← Char.toNat_inj, toNat_toLower] at h
  rw [← Char.toNat_inj, ← Char.toNat_inj]
  split at h <;> omega

theorem isDigit_toLower (c : Char) : c.toLower.isDigit = c.isDigit := by
  have range (d : Char) : d.isDigit ↔ 48 ≤ d.toNat ∧ d.toNat ≤ 57 := Char.isDigit_iff_toNat
  rw [Bool.eq_iff_iff, range, range, toNat_toLower]
  split <;> omega

theorem toLower_of_isDigit {c : Char} (h : c.isDigit) : c.toLower = c := by
  have range : 48 ≤ c.toNat ∧ c.toNat ≤ 57 := Char.isDigit_iff_toNat.1 h
  rw [← Char.toNat_inj, toNat_toLower, if_neg (by omega)]

theorem isBlank_toLower (c : Char) : isBlank c.toLower = isBlank c := by
  simp only [isBlank, toNat_toLower]
  split
  · rw [Bool.eq_iff_iff]
    simp only [Bool.or_eq_true, Bool.and_eq_true, decide_eq_true_eq, beq_iff_eq]
    omega
  · rfl

section
variable {p : Char → Bool} (blind : ∀ c, p c.toLower = p c) (cs : List Char)
include blind

theorem takeWhile_map_toLower :
    (cs.map Char.toLower).takeWhile p = (cs.takeWhile p).map Char.toLower := by
  have same : p ∘ Char.toLower = p := funext blind
  rw [List.takeWhile_map, same]

theorem dropWhile_map_toLower :
    (cs.map Char.toLower).dropWhile p = (cs.dropWhile p).map Char.toLower := by
  have same : p ∘ Char.toLower = p := funext blind
  rw [List.dropWhile_map, same]

end

theorem dropBlank_map_toLower (cs : List Char) :
    dropBlank (cs.map Char.toLower) = (dropBlank cs).map Char.toLower :=
  dropWhile_map_toLower isBlank_toLower cs

theorem takeWhile_isDigit_map_toLower (cs : List Char) :
    (cs.map Char.toLower).takeWhile Char.isDigit = cs.takeWhile Char.isDigit := by
  have same : ∀ c ∈ cs.takeWhile Char.isDigit, c.toLower = c :=
    fun c member => toLower_of_isDigit (List.mem_takeWhile_imp member)
  rw [takeWhile_map_toLower isDigit_toLower, List.map_congr_left same]
  exact List.map_id _

end GatewayCache.Text
