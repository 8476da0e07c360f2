import GatewayCache.Json.Basic
import GatewayCache.Text.Double

/-!
Reading JSON text. One document makes up the whole text. A part that follows the grammar but denotes
nothing does not fail; it reads as unreadable.
-/
namespace GatewayCache.Json

namespace Read

open Text

def isSpace (c : Char) : Bool := c == ' ' || c == '\t' || c == '\n' || c == '\r'

def skipSpace : Skip := skipWhile isSpace

/-! ### Strings -/

/-- What the letter behind a backslash stands for. -/
def escapes : List (Char × Char) := [
  ('"', '"'), ('\\', '\\'), ('/', '/'), ('b', '\x08'), ('f', '\x0c'), ('n', '\n'), ('r', '\r'),
  ('t', '\t')]

/-- Takes what follows the backslash of an escape, as a UTF-16 unit. -/
def escape : Reader Nat
  | [] => none
  | c :: rest =>
    match escapes.lookup c with
    | some d => some (.front d.toNat)
    | none => if c = 'u' then (hexNumber 4 rest).map (·.behind) else none

/-- Takes one character of a string or half of one, or the closing quote. -/
def stringPiece : Reader (List Nat × Bool)
  | [] => none
  | c :: rest =>
    if c = '"' then some (.front ([], true))
    else if c = '\\' then (escape rest).map fun t => (t.map fun n => ([n], false)).behind
    else if c.toNat < 0x20 then none
    else some (.front ([c.toNat], false))

/-- Whether a unit is the first half of a surrogate pair. -/
def isHighHalf (n : Nat) : Bool := 0xD800 ≤ n && n < 0xDC00

/-- Whether a unit is the second half of a surrogate pair. -/
def isLowHalf (n : Nat) : Bool := 0xDC00 ≤ n && n < 0xE000

/-- The characters that code points and halves of surrogate pairs make up; each half needs its other. -/
def joinHalves : List Nat → Option (List Char)
  | [] => some []
  | [n] => if isHighHalf n || isLowHalf n then none else some [.ofNat n]
  | high :: low :: rest =>
    if isHighHalf high then
      if isLowHalf low then
        (joinHalves rest).map (.ofNat (0x10000 + (high - 0xD800) * 0x400 + (low - 0xDC00)) :: ·)
      else none
    else if isLowHalf high then none
    else (joinHalves (low :: rest)).map (.ofNat high :: ·)

/-- Takes a string, which may turn out to be none. -/
def quoted : Reader (Option String) := fun input => do
  let start ← char '"' input
  let tail ← untilLast stringPiece start.rest
  some (start.after (tail.map fun units => (joinHalves units).map String.ofList))

/-! ### Numbers -/

/-- Takes the digits before the point: a lone zero, or digits that do not start with one. -/
def wholePart : Reader (List Char)
  | '0' :: _ => some (.front ['0'])
  | input => digits input

/-- The digits after the point, if there is one; a point without digits fails. -/
def fraction (input : List Char) : Option (Option (List Char) × Left input) :=
  match char '.' input with
  | some point => do
    let ds ← digits point.rest
    some (some ds.value, (point.after ds).left)
  | none => some (none, .all)

/-- Takes digits that may have a sign. -/
def signedDigits : Reader Int
  | '-' :: rest => (digits rest).map fun t => (t.map fun ds => -(ofDigits ds : Int)).behind
  | '+' :: rest => (digits rest).map fun t => (t.map fun ds => (ofDigits ds : Int)).behind
  | input => (digits input).map fun t => t.map fun ds => (ofDigits ds : Int)

/-- The exponent, if there is one; an `e` without digits fails. -/
def exponent (input : List Char) : Option (Option Int × Left input) :=
  match (char 'e' input).orElse fun _ => char 'E' input with
  | some mark => do
    let power ← signedDigits mark.rest
    some (some power.value, (mark.after power).left)
  | none => some (none, .all)

/-- Reads digits on into a 64-bit word as long as they fit, and gives those that are left over. -/
def fillWord (n : Nat) : List Char → Nat × List Char
  | [] => (n, [])
  | d :: ds =>
    if 10 * n + digitValue d < UInt64.size then fillWord (10 * n + digitValue d) ds else (n, d :: ds)

/--
Whether the parts of a literal denote a finite double: the digits that fit a word, times a power of
ten. Digits behind those count by their place only, and not at all behind the point.
-/
def isFinite (whole frac : List Char) (exp : Int) : Bool :=
  let (start, dropped) := fillWord 0 whole
  let (word, unused) := fillWord start frac
  productFits word (dropped.length + exp - (frac.length - unused.length))

/-- The number that the parts of a literal denote, if it is finite. -/
def numberOf? (negative : Bool) (whole : List Char) (frac : Option (List Char))
    (exp : Option Int) : Option Number :=
  if isFinite whole (frac.getD []) (exp.getD 0) then
    let digits := ofDigits (whole ++ frac.getD [])
    if frac.isNone && exp.isNone && !(negative && digits == 0) then
      some (.integer (if negative then -digits else digits))
    else some (.real negative digits (exp.getD 0 - (frac.getD []).length))
  else none

/-- Takes a number without its sign. -/
def unsigned (negative : Bool) : Reader (Option Number) := fun input => do
  let whole ← wholePart input
  let (frac, afterFrac) ← fraction whole.rest
  let (exp, afterExp) ← exponent afterFrac.rest
  some ((whole.skip (afterFrac.next afterExp)).map fun _ =>
    numberOf? negative whole.value frac exp)

/-- Takes a number, which may turn out to be none. -/
def number : Reader (Option Number)
  | '-' :: rest => (unsigned true rest).map (·.behind)
  | input => unsigned false input

/-! ### Documents -/

/-- What a literal denotes, if anything. -/
def literal {α : Type} (make : α → Json) : Option α → Json
  | some a => make a
  | none => .unreadable

/-- The object of some members, if all keys denote something. -/
def objectOf (members : List (Option String × Json)) : Json :=
  literal .object (members.mapM fun (key, value) => key.map (·, value))

def member (value : Reader Json) : Reader (Option String × Json) := fun input => do
  let key ← quoted input
  let gap := skipSpace key.rest
  let colon ← char ':' gap.rest
  let behind := skipSpace colon.rest
  let v ← value behind.rest
  some (key.after (.past gap (colon.after (.past behind (v.map (key.value, ·))))))

/-- Takes a document that is no container. -/
def atom : Reader Json := fun input =>
  match input.head? with
  | some 'n' => (word 'n' ['u', 'l', 'l'] input).map (·.map fun _ => .null)
  | some 't' => (word 't' ['r', 'u', 'e'] input).map (·.map fun _ => .bool true)
  | some 'f' => (word 'f' ['a', 'l', 's', 'e'] input).map (·.map fun _ => .bool false)
  | some '"' => (quoted input).map (·.map (literal .string))
  | _ => (number input).map (·.map (literal .number))

/--
Takes a document whose containers nest at most `room` deep; those that nest deeper than `depth` are
unreadable.
-/
def value : (room depth : Nat) → Reader Json
  | 0, _ => atom
  | room + 1, depth => fun input =>
    let shallow (j : Json) : Json := if depth = 0 then .unreadable else j
    match char '[' input, char '{' input with
    | some start, _ => do
      let items ← itemsUntil (value room (depth - 1)) skipSpace ',' ']' false start.rest
      some (start.after (items.map fun items => shallow (.array items)))
    | none, some start => do
      let members ← itemsUntil (member (value room (depth - 1))) skipSpace ',' '}' false start.rest
      some (start.after (members.map fun members => shallow (objectOf members)))
    | none, none => atom input

end Read

def maxDepth : Nat := 127

/-- The document that a text consists of. -/
def parse? (text : String) : Option Json := do
  let start := Read.skipSpace text.toList
  let v ← Read.value start.rest.length maxDepth start.rest
  if (Read.skipSpace v.rest).rest.isEmpty then some v.value else none

end GatewayCache.Json
