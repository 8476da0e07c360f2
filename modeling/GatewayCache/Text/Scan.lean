/-!
Reading from the front of a text. A reader that succeeds has used up at least one character, and
its result carries the proof, so that readers may repeat and nest and still end.
-/
namespace GatewayCache.Text

/-! ### Results -/

/-- What reading the front of `input` gives: a value and the strictly shorter rest. -/
structure Taken (α : Type) (input : List Char) where
  value : α
  rest : List Char
  shorter : rest.length < input.length

/-- What passing over the front of `input` leaves, which may be all of it. -/
structure Left (input : List Char) where
  rest : List Char
  notLonger : rest.length ≤ input.length

/-- A reader of the front of a text; it fails or takes at least one character. -/
abbrev Reader (α : Type) := (input : List Char) → Option (Taken α input)

/-- A way to pass over the front of a text. -/
abbrev Skip := (input : List Char) → Left input

namespace Left

variable {input rest : List Char} {c : Char}

def all : Left input := ⟨input, Nat.le_refl _⟩

/-- One character is passed over as well. -/
def behind (l : Left rest) : Left (c :: rest) := ⟨l.rest, Nat.le_succ_of_le l.notLonger⟩

/-- Passes on over what is left. -/
def next (l : Left input) (m : Left l.rest) : Left input :=
  ⟨m.rest, Nat.le_trans m.notLonger l.notLonger⟩

end Left

namespace Taken

variable {α β : Type} {input rest : List Char} {c : Char}

def front (value : α) : Taken α (c :: rest) := ⟨value, rest, Nat.lt_succ_self _⟩

/-- One character in front is taken as well. -/
def behind (t : Taken α rest) : Taken α (c :: rest) := ⟨t.value, t.rest, Nat.lt_succ_of_lt t.shorter⟩

def map (f : α → β) (t : Taken α input) : Taken β input := ⟨f t.value, t.rest, t.shorter⟩

/-- A reading of what another one leaves. -/
def after (t : Taken α input) (next : Taken β t.rest) : Taken β input :=
  ⟨next.value, next.rest, Nat.lt_trans next.shorter t.shorter⟩

/-- A reading of what was left. -/
def past (l : Left input) (t : Taken α l.rest) : Taken α input :=
  ⟨t.value, t.rest, Nat.lt_of_lt_of_le t.shorter l.notLonger⟩

/-- Passes on over what a reading leaves. -/
def skip (t : Taken α input) (l : Left t.rest) : Taken α input :=
  ⟨t.value, l.rest, Nat.lt_of_le_of_lt l.notLonger t.shorter⟩

def left (t : Taken α input) : Left input := ⟨t.rest, Nat.le_of_lt t.shorter⟩

end Taken

/-! ### Digits -/

def digitValue (c : Char) : Nat := c.toNat - '0'.toNat

def ofDigits (digits : List Char) : Nat := digits.foldl (fun n c => 10 * n + digitValue c) 0

/-- The value of a hexadecimal digit of either case. -/
def hexValue? (c : Char) : Option Nat :=
  if c.isDigit then some (digitValue c)
  else if 'a' ≤ c ∧ c ≤ 'f' then some (c.toNat - 'a'.toNat + 10)
  else if 'A' ≤ c ∧ c ≤ 'F' then some (c.toNat - 'A'.toNat + 10)
  else none

/-- The number that a list of hexadecimal digits denotes. -/
def ofHexDigits? (digits : List Char) : Option Nat :=
  digits.foldlM (fun n c => (hexValue? c).map (16 * n + ·)) 0

/-! ### Skips and readers -/

theorem length_dropWhile_le (p : Char → Bool) (cs : List Char) :
    (cs.dropWhile p).length ≤ cs.length :=
  (List.dropWhile_sublist p).length_le

theorem length_drop_le (n : Nat) (cs : List Char) : (cs.drop n).length ≤ cs.length :=
  (List.drop_sublist n cs).length_le

def skipWhile (p : Char → Bool) : Skip := fun input =>
  ⟨input.dropWhile p, length_dropWhile_le p input⟩

def skipFirst (n : Nat) : Skip := fun input => ⟨input.drop n, length_drop_le n input⟩

def char (c : Char) : Reader Unit
  | [] => none
  | d :: _ => if d = c then some (.front ()) else none

def word (c : Char) : List Char → Reader Unit
  | [] => char c
  | d :: ds => fun input => do
    let first ← char c input
    let others ← word d ds first.rest
    some (first.after others)

/-- Takes the characters that satisfy `p`, of which there has to be one. -/
def run (p : Char → Bool) : Reader (List Char)
  | [] => none
  | c :: rest =>
    if p c then
      some ⟨c :: rest.takeWhile p, rest.dropWhile p, Nat.lt_succ_of_le (length_dropWhile_le p rest)⟩
    else none

def digits : Reader (List Char) := run Char.isDigit

/-- Takes a number of exactly `width` hexadecimal digits. -/
def hexNumber (width : Nat) : Reader Nat := fun input =>
  if h : 0 < width ∧ width ≤ input.length then do
    let n ← ofHexDigits? (input.take width)
    some ⟨n, input.drop width, by rw [List.length_drop]; omega⟩
  else none

/-! ### Repetition -/

/-- Passes over pieces as long as there are any. -/
def skipMany (piece : Reader Unit) (input : List Char) : Left input :=
  match piece input with
  | some t => t.left.next (skipMany piece t.rest)
  | none => .all
termination_by input.length
decreasing_by exact t.shorter

/-- Takes pieces up to the first that is marked as the last, and joins them. -/
def untilLast {α : Type} (piece : Reader (List α × Bool)) (input : List Char) :
    Option (Taken (List α) input) := do
  let one ← piece input
  if one.value.2 then some (one.map (·.1))
  else do
    let others ← untilLast piece one.rest
    some (one.after (others.map (one.value.1 ++ ·)))
termination_by input.length
decreasing_by exact one.shorter

variable {α : Type} (item : Reader α) (skip : Skip) (separator close : Char)

/--
Takes an item with the separator or the closing character behind it, or only the closing character
where `trailing` allows that.
-/
def itemPiece (trailing : Bool) : Reader (List α × Bool) := fun input =>
  let start := skip input
  match if trailing then char close start.rest else none with
  | some t => some (.past start (t.map fun _ => ([], true)))
  | none => do
    let one ← item start.rest
    let gap := skip one.rest
    let last ← (char separator gap.rest).map (·.map fun _ => false) <|>
      (char close gap.rest).map (·.map fun _ => true)
    some (.past start (one.after (.past gap (last.map fun last => ([one.value], last)))))

/--
Takes items up to the character `close`; `separator` stands between two items, and after the last
one only if `trailing` allows it. `skip` passes over what may stand around items and separators.
-/
def itemsUntil (trailing : Bool) : Reader (List α) := fun input =>
  let start := skip input
  match char close start.rest with
  | some t => some (.past start (t.map fun _ => []))
  | none => untilLast (itemPiece item skip separator close trailing) input

end GatewayCache.Text
