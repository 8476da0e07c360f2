import GatewayCache.Toml.Scalar

/-! Reading TOML strings, keys and values. -/
namespace GatewayCache.Toml

open Text

/-! ### Blanks -/

/-- White space within a line. -/
def isSpace (c : Char) : Bool := c == ' ' || c == '\t'

/-- Takes white space within a line. -/
def space : Reader Unit := fun input => (run isSpace input).map (·.map fun _ => ())

def skipSpace : Skip := skipWhile isSpace

/-- Whether a character may stand in comments and strings as it is: no control character but tab. -/
def isPlain (c : Char) : Bool := c == '\t' || (0x20 ≤ c.toNat && c.toNat != 0x7F)

def newline : Reader Unit
  | '\n' :: _ => some (.front ())
  | '\r' :: '\n' :: _ => some (Taken.front ()).behind
  | _ => none

/-- Takes a comment, which goes up to the end of its line. -/
def comment : Reader Unit := fun input => do
  let mark ← char '#' input
  some (mark.skip (skipWhile isPlain mark.rest))

/-- Takes white space, a line end, or a comment with the line end behind it. -/
def linePart : Reader Unit := fun input =>
  space input <|> newline input <|> do
    let text ← comment input
    let last ← newline text.rest
    some (text.after last)

/-- Passes over white space, line ends and comments with the line end behind them. -/
def skipLines : Skip := skipMany linePart

/-- Passes over white space and line ends. -/
def skipBreaks : Skip := skipMany fun input => space input <|> newline input

/-! ### Strings -/

/-- What the letter behind a backslash stands for. -/
def escapes : List (Char × Char) := [
  ('b', '\x08'), ('t', '\t'), ('n', '\n'), ('f', '\x0c'), ('r', '\r'), ('"', '"'),
  ('\\', '\\')]

/-- Takes the code of a character in hexadecimal digits. -/
def codePoint (width : Nat) : Reader Char := fun input => do
  let n ← hexNumber width input
  if n.value < 0xD800 || (0xDFFF < n.value && n.value < 0x110000) then some (n.map Char.ofNat)
  else none

/-- Takes what follows the backslash of an escape. -/
def escape : Reader Char
  | [] => none
  | c :: rest =>
    match escapes.lookup c with
    | some d => some (.front d)
    | none =>
      if c = 'u' then (codePoint 4 rest).map (·.behind)
      else if c = 'U' then (codePoint 8 rest).map (·.behind)
      else none

/-- Takes one character of a string on one line, or its closing quote. -/
def stringPiece (quote : Char) (escapes : Bool) : Reader (List Char × Bool)
  | [] => none
  | c :: rest =>
    if c = quote then some (.front ([], true))
    else if escapes && c = '\\' then (escape rest).map fun t => (t.map fun d => ([d], false)).behind
    else if isPlain c then some (.front ([c], false))
    else none

/-- Takes the white space behind a backslash that ends its line, with all blank lines after it. -/
def lineEnding : Reader Unit := fun input => do
  let gap := skipSpace input
  let t ← newline gap.rest
  some (.past gap (t.skip (skipBreaks t.rest)))

/--
Takes one character of a string over several lines, or its three closing quotes. Up to two quotes
more belong to the string.
-/
def textPiece (quote : Char) (escapes : Bool) : Reader (List Char × Bool)
  | [] => none
  | c :: rest =>
    if c = quote then
      let quotes := (rest.takeWhile (· == quote)).length + 1
      if 3 ≤ quotes then
        let inside := min (quotes - 3) 2
        some ((Taken.front (List.replicate inside quote, true)).skip (skipFirst (inside + 2) rest))
      else some (.front ([c], false))
    else if escapes && c = '\\' then
      match lineEnding rest with
      | some t => some (t.map fun _ => ([], false)).behind
      | none => (escape rest).map fun t => (t.map fun d => ([d], false)).behind
    else if isPlain c then some (.front ([c], false))
    else (newline (c :: rest)).map fun t => t.map fun _ => (['\n'], false)

/-- Passes over a line end right behind the opening quotes. -/
def skipFirstBreak : Skip := fun input =>
  match newline input with
  | some t => t.left
  | none => .all

/-- Takes a string in the given quotes, on one line or, in three of them, over several. -/
def stringIn (quote : Char) (input : List Char) : Option (Taken String input) :=
  match word quote [quote, quote] input with
  | some start => do
    let gap := skipFirstBreak start.rest
    let tail ← untilLast (textPiece quote (quote = '"')) gap.rest
    some (start.after (.past gap (tail.map String.ofList)))
  | none => do
    let start ← char quote input
    let tail ← untilLast (stringPiece quote (quote = '"')) start.rest
    some (start.after (tail.map String.ofList))

def lineString : Reader String := fun input => do
  let quote ← input.head?.filter fun c => c = '"' || c = '\''
  let start ← char quote input
  let tail ← untilLast (stringPiece quote (quote = '"')) start.rest
  some (start.after (tail.map String.ofList))

/-! ### Keys -/

def isBare (c : Char) : Bool := c.isAlphanum || c == '-' || c == '_'

def keyPart : Reader String := fun input =>
  (run isBare input).map (·.map String.ofList) <|> lineString input

/-- Takes one part of a key with the white space around it, and the point behind it. -/
def keyPiece : Reader (List String × Bool) := fun input => do
  let start := skipSpace input
  let part ← keyPart start.rest
  let gap := skipSpace part.rest
  match char '.' gap.rest with
  | some point => some (.past start (part.after (.past gap (point.map fun _ => ([part.value], false)))))
  | none => some (.past start ((part.skip gap).map fun p => ([p], true)))

/-- How many parts a key may have, and how deep arrays and tables in braces may nest. -/
def maxDepth : Nat := 79

/-- Takes a dotted key, split into the path to a table and the key there. -/
def key : Reader (List String × String) := fun input => do
  let parts ← untilLast keyPiece input
  let last ← parts.value.getLast?
  if parts.value.length ≤ maxDepth then some (parts.map fun ps => (ps.dropLast, last)) else none

/-! ### Values -/

/-- Takes a key, an equals sign and a value. -/
def keyValue (value : Reader Value) : Reader (List String × String × Value) := fun input => do
  let k ← key input
  let sign ← char '=' k.rest
  let gap := skipSpace sign.rest
  let v ← value gap.rest
  some (k.after (sign.after (.past gap (v.map (k.value.1, k.value.2, ·)))))

/-- Takes a value that is no array and no table in braces. -/
def atom : Reader Value := fun input =>
  match input.head? with
  | some '"' => (stringIn '"' input).map (·.map .string)
  | some '\'' => (stringIn '\'' input).map (·.map .string)
  | _ => scalar input

/-- Takes a value whose arrays and tables in braces nest at most `depth` deep. -/
def value : (depth : Nat) → Reader Value
  | 0 => atom
  | depth + 1 => fun input =>
    match char '[' input, char '{' input with
    | some start, _ => do
      let items ← itemsUntil (value depth) skipLines ',' ']' true start.rest
      some (start.after (items.map .array))
    | none, some start => do
      let pairs ← itemsUntil (keyValue (value depth)) skipSpace ',' '}' false start.rest
      let table ← inlineTable? pairs.value
      some (start.after (pairs.map fun _ => table))
    | none, none => atom input

end GatewayCache.Toml
