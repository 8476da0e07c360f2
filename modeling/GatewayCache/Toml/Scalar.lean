import GatewayCache.Text.Double
import GatewayCache.Timestamp.Basic
import GatewayCache.Toml.Basic

/-! TOML numbers, dates and truth values: one run of characters each, with at most one space. -/
namespace GatewayCache.Toml

open Text

/-- The characters that numbers, dates and truth values consist of. -/
def isScalarChar (c : Char) : Bool :=
  c.isAlphanum || c == '+' || c == '-' || c == '_' || c == '.' || c == ':'

/-- The digits of a number with single underscores between them. -/
def spacedDigits? (isDigit : Char → Bool) : List Char → Option (List Char)
  | [] => none
  | [c] => if isDigit c then some [c] else none
  | c :: '_' :: rest => if isDigit c then (spacedDigits? isDigit rest).map (c :: ·) else none
  | c :: rest => if isDigit c then (spacedDigits? isDigit rest).map (c :: ·) else none

/-- The digits of a decimal integer, which does not start with a superfluous zero. -/
def plainDigits? (cs : List Char) : Option (List Char) := do
  let ds ← spacedDigits? Char.isDigit cs
  if ds.head? = some '0' && 1 < ds.length then none else some ds

/-- The number that a list of digits denotes in a base up to sixteen. -/
def ofBase (base : Nat) (digits : List Char) : Nat :=
  digits.foldl (fun n c => base * n + (hexValue? c).getD 0) 0

/-- The largest integer. -/
def maxInteger : Nat := Nat.pow 2 63 - 1

/-- An integer in a base that its first characters name. -/
def basedInteger? (base : Nat) (cs : List Char) : Option Value := do
  let ds ← spacedDigits? (fun c => (hexValue? c).any (· < base)) cs
  let n := ofBase base ds
  if n ≤ maxInteger then some (.integer n) else none

/-- Splits a sign from a number. -/
def splitSign : List Char → Bool × List Char
  | '-' :: rest => (true, rest)
  | '+' :: rest => (false, rest)
  | cs => (false, cs)

/-- A decimal integer. -/
def decimalInteger? (cs : List Char) : Option Value := do
  let (negative, rest) := splitSign cs
  let n := ofDigits (← plainDigits? rest)
  if negative then
    if n ≤ maxInteger + 1 then some (.integer (-n)) else none
  else if n ≤ maxInteger then some (.integer n) else none

def integer? : List Char → Option Value
  | '0' :: 'x' :: rest => basedInteger? 16 rest
  | '0' :: 'o' :: rest => basedInteger? 8 rest
  | '0' :: 'b' :: rest => basedInteger? 2 rest
  | cs => decimalInteger? cs

/-- The exponent of a float, from behind its `e`. -/
def exponent? (cs : List Char) : Option Int := do
  let (negative, rest) := splitSign cs
  let n := ofDigits (← spacedDigits? Char.isDigit rest)
  some (if negative then -n else n)

/-- A float. It may be too small for a double but not too large. -/
def float? (cs : List Char) : Option Value := do
  let (negative, rest) := splitSign cs
  let text := String.ofList cs
  if rest = ['i', 'n', 'f'] || rest = ['n', 'a', 'n'] then some (.float text)
  else
    let isExp c := c == 'e' || c == 'E'
    let mantissa := rest.takeWhile (!isExp ·)
    let whole ← plainDigits? (mantissa.takeWhile (· != '.'))
    let frac ← match mantissa.dropWhile (· != '.') with
      | [] => some []
      | _ :: ds => spacedDigits? Char.isDigit ds
    let exp ← match rest.dropWhile (!isExp ·) with
      | [] => if frac.isEmpty then none else some 0
      | _ :: ds => exponent? ds
    if negative || fitsDouble (ofDigits (whole ++ frac)) (exp - frac.length) then
      some (.float text)
    else none

/-- A number of exactly two digits, within bounds. -/
def twoDigits? (low high : Nat) (a b : Char) : Option Nat :=
  if a.isDigit && b.isDigit && low ≤ ofDigits [a, b] && ofDigits [a, b] ≤ high then
    some (ofDigits [a, b])
  else none

/-- Whether a text is a date that exists. -/
def isDate : List Char → Bool
  | [y, y', y'', y''', '-', m, m', '-', d, d'] =>
    [y, y', y'', y'''].all Char.isDigit &&
      (twoDigits? 1 12 m m').any fun month =>
        (twoDigits? 1 (Date.daysIn (ofDigits [y, y', y'', y''']) month) d d').isSome
  | _ => false

/-- Whether a text is a time of day behind its minutes: seconds, perhaps with a fraction. -/
def isSeconds : List Char → Bool
  | [s, s'] => (twoDigits? 0 60 s s').isSome
  | s :: s' :: '.' :: fraction =>
    (twoDigits? 0 60 s s').isSome && !fraction.isEmpty && fraction.all Char.isDigit
  | _ => false

/-- Whether a text is a time of day. -/
def isTime : List Char → Bool
  | h :: h' :: ':' :: m :: m' :: ':' :: rest =>
    (twoDigits? 0 23 h h').isSome && (twoDigits? 0 59 m m').isSome && isSeconds rest
  | _ => false

/-- Whether a text is an offset with a sign. -/
def isOffset : List Char → Bool
  | [sign, h, h', ':', m, m'] =>
    (sign == '+' || sign == '-') && (twoDigits? 0 23 h h').isSome && (twoDigits? 0 59 m m').isSome
  | _ => false

/-- Whether a text is a time of day, perhaps with an offset. -/
def isOffsetTime (cs : List Char) : Bool :=
  isTime cs ||
    (match cs.getLast? with
      | some z => (z == 'Z' || z == 'z') && isTime cs.dropLast
      | none => false) ||
    (isOffset (cs.drop (cs.length - 6)) && isTime (cs.take (cs.length - 6)))

/-- Whether a text is a date, a time of day, or both with a `T` between them. -/
def isDatetime (cs : List Char) : Bool :=
  isDate cs || isTime cs ||
    (isDate (cs.take 10) &&
      match cs.drop 10 with
      | t :: time => (t == 'T' || t == 't') && isOffsetTime time
      | [] => false)

/-- The value that a run of scalar characters denotes. -/
def scalar? (cs : List Char) : Option Value :=
  if cs = ['t', 'r', 'u', 'e'] then some (.boolean true)
  else if cs = ['f', 'a', 'l', 's', 'e'] then some (.boolean false)
  else if isDatetime cs then some (.datetime (String.ofList cs))
  else integer? cs <|> float? cs

/-- The time of day that may follow a date after a space, with what is left behind it. -/
def spacedTime (input : List Char) : Option (List Char × Left input) :=
  match input with
  | space :: d :: more =>
    if space = ' ' && d.isDigit then
      let time := d :: more.takeWhile isScalarChar
      if isOffsetTime time then some (space :: time, (skipWhile isScalarChar more).behind.behind)
      else none
    else some ([], .all)
  | _ => some ([], .all)

/-- Takes a number, a date or a truth value. A space may stand between a date and a time. -/
def scalar : Reader Value := fun input => do
  let one ← run isScalarChar input
  if isDate one.value then do
    let (time, left) ← spacedTime one.rest
    some ((one.skip left).map fun date => .datetime (String.ofList (date ++ time)))
  else do
    let v ← scalar? one.value
    some (one.map fun _ => v)

end GatewayCache.Toml
