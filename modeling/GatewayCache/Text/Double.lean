import GatewayCache.Text.Scan

/-! Decimal literals as doubles: what they look like, and which of them are too large. -/
namespace GatewayCache.Text

/-- The characters behind a sign, if there is one. -/
def dropSign : List Char → List Char
  | '+' :: rest => rest
  | '-' :: rest => rest
  | cs => cs

/-- Whether characters are nothing, or an exponent. -/
def isExponent : List Char → Bool
  | [] => true
  | c :: rest =>
    let digits := dropSign rest
    (c == 'e' || c == 'E') && !digits.isEmpty && digits.all Char.isDigit

/-- Whether characters are digits, with a point anywhere among them, and maybe an exponent. -/
def isDecimal (cs : List Char) : Bool :=
  let whole := cs.takeWhile Char.isDigit
  match cs.dropWhile Char.isDigit with
  | '.' :: rest =>
    let fraction := rest.takeWhile Char.isDigit
    !(whole ++ fraction).isEmpty && isExponent (rest.dropWhile Char.isDigit)
  | rest => !whole.isEmpty && isExponent rest

/-- Whether a text is a number, which may be infinite or none at all; a sign may stand in front. -/
def isDouble (text : String) : Bool :=
  let unsigned := dropSign text.toList
  ["inf", "infinity", "nan"].contains (String.ofList (unsigned.map Char.toLower)) ||
    isDecimal unsigned

/-- The least magnitude that rounds to infinity among doubles. -/
def tooLarge : Nat := Nat.pow 2 1024 - Nat.pow 2 970

/-- Whether the double nearest to `digits * 10 ^ exponent` is finite. -/
def fitsDouble (digits : Nat) (exponent : Int) : Bool :=
  if digits = 0 then true
  else
    let magnitude := (Nat.toDigits 10 digits).length + exponent
    if magnitude < 300 then true
    else if 320 < magnitude then false
    else if 0 ≤ exponent then digits * Nat.pow 10 exponent.toNat < tooLarge
    else digits < tooLarge * Nat.pow 10 (-exponent).toNat

/-- The nearest number of 53 significant bits; a tie goes to the even one. -/
def nearestDouble (n : Nat) : Nat :=
  let spare := n.log2 - 52
  let unit := Nat.pow 2 spare
  let below := n / unit
  let twice := 2 * (n % unit)
  if unit < twice || (twice == unit && below % 2 == 1) then (below + 1) * unit else below * unit

/--
Whether `digits * 10 ^ exponent` is finite as a product of doubles: both factors are rounded before
they are multiplied, so a literal at the end of the range may fail although its nearest double is
finite.
-/
def productFits (digits : Nat) (exponent : Int) : Bool :=
  digits == 0 || exponent < 0 ||
    (exponent ≤ 308 && nearestDouble digits * nearestDouble (Nat.pow 10 exponent.toNat) < tooLarge)

end GatewayCache.Text
