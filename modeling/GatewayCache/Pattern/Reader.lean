import GatewayCache.Pattern.Basic
import GatewayCache.Text.Alphanumeric
import GatewayCache.Text.Blank
import GatewayCache.Text.Scan

/-!
Reading patterns. A count in braces is never complete, because a closing brace ends the field whose
value the pattern describes; so an opening brace cannot be read.
-/
namespace GatewayCache.Pattern

open Text (Left Reader Skip Taken char dropBlank hexValue? isBlank skipWhile)

/-! ### White space and comments -/

/-- Passes over white space and over comments, which end with their line. -/
def skipComments (inComment : Bool) : Skip
  | [] => .all
  | c :: rest =>
    if inComment then (skipComments (c != '\n') rest).behind
    else if isBlank c then (skipComments false rest).behind
    else if c == '#' then (skipComments true rest).behind
    else .all

/-- Passes over what means nothing in a verbose pattern. -/
def gap (verbose : Bool) : Skip := fun input =>
  if verbose then skipComments false input else .all

/-- Takes a given character and the gap behind it. -/
def mark (verbose : Bool) (c : Char) : Reader Unit := fun input => do
  let t ← char c input
  some (t.skip (gap verbose t.rest))

/-! ### Characters -/

def hexDigit : Reader Nat
  | [] => none
  | c :: _ => (hexValue? c).map .front

/-- Takes a number of hexadecimal digits, and goes on from the value of those in front. -/
def hexDigits (verbose : Bool) (value : Nat) : Nat → Reader Nat
  | 0 => fun _ => none
  | width + 1 => fun input => do
    let start := gap verbose input
    let digit := Taken.past start (← hexDigit start.rest)
    let value := 16 * value + digit.value
    if width = 0 then some (digit.map fun _ => value)
    else do
      let others ← hexDigits verbose value width digit.rest
      some (digit.after others)

/-- How many hexadecimal digits follow a letter behind a backslash. -/
def hexWidth? : Char → Option Nat
  | 'x' => some 2
  | 'u' => some 4
  | 'U' => some 8
  | _ => none

/-- The control characters that have a letter behind a backslash. -/
def control? : Char → Option Char
  | 'a' => some '\x07'
  | 'f' => some '\x0c'
  | 'n' => some '\n'
  | 'r' => some '\r'
  | 't' => some '\t'
  | 'v' => some '\x0b'
  | _ => none

/-- Whether a character behind a backslash stands for itself. -/
def isEscapable (c : Char) : Bool := c.toNat < 0x80 && !c.isAlphanum && c != '<' && c != '>'

/-- What one character behind a backslash means. -/
def ofEscape? (c : Char) : Option Pattern :=
  if isEscapable c then some (.letter ⟨c, false⟩)
  else if ['d', 's', 'w'].contains c then some (.shorthand false)
  else if ['D', 'S', 'W'].contains c then some (.shorthand true)
  else if ['A', 'z'].contains c then some (.edge false)
  else if ['b', 'B', '<', '>'].contains c then some (.edge true)
  else (control? c).map fun c => .letter ⟨c, false⟩

/-- The character with a number, unless the number belongs to none. -/
def ofNumber? (n : Nat) : Option Char := if n.isValidChar then some (Char.ofNat n) else none

def escape (verbose : Bool) : Reader Pattern
  | [] => none
  | c :: rest =>
    match hexWidth? c with
    | some width => do
      let number ← hexDigits verbose 0 width rest
      let found ← ofNumber? number.value
      some (number.behind.map fun _ => .letter ⟨found, width == 2⟩)
    | none => (ofEscape? c).map .front

def element (verbose : Bool) : Reader Pattern
  | [] => none
  | '\\' :: rest => (escape verbose rest).map .behind
  | c :: _ => some (.front (.letter ⟨c, false⟩))

/-- Takes one character or what stands for one, or for a place. -/
def atom (verbose : Bool) : Reader Pattern
  | '.' :: _ => some (.front .anyLetter)
  | '^' :: _ => some (.front (.edge false))
  | '$' :: _ => some (.front (.edge false))
  | input => element verbose input

/-! ### Brackets -/

def asciiClasses : List String := [
  "alnum", "alpha", "ascii", "blank", "cntrl", "digit", "graph", "lower", "print", "punct", "space",
  "upper", "word", "xdigit"]

/-- Takes the name of a class between colons, and the closing bracket. -/
def className (negated : Bool) : Reader Members := fun input => do
  let name := input.takeWhile (· != ':')
  let behind := skipWhile (· != ':') input
  let last ← Text.word ':' [']'] behind.rest
  if asciiClasses.contains (String.ofList name) then
    some (.past behind (last.map fun _ => .named negated))
  else none

/-- Takes a class of ASCII characters behind its opening bracket. -/
def asciiClass : Reader Members
  | ':' :: '^' :: rest => (className true rest).map fun t => t.behind.behind
  | ':' :: rest => (className false rest).map .behind
  | _ => none

/-- What a bracket lists by a character. -/
def member? : Pattern → Option Members
  | .letter l => some (.letter l)
  | .shorthand negated => some (.shorthand negated)
  | _ => none

def range? : Pattern → Pattern → Option Members
  | .letter first, .letter last =>
    if first.char ≤ last.char then some (.range first last) else none
  | _, _ => none

/--
What comes next to a hyphen: in a verbose pattern it is looked for behind white space and behind the
mark of a comment, but not behind the comment.
-/
def ahead (verbose : Bool) (input : List Char) : Option Char :=
  if verbose then
    let visible := match dropBlank input with
      | '#' :: comment => dropBlank comment
      | visible => visible
    visible.head? <|> input.head?
  else input.head?

/-- Takes the hyphen of a range. One before a closing bracket or another hyphen is none. -/
def rangeMark (verbose : Bool) : Reader Unit := fun input => do
  let t ← mark verbose '-' input
  if [some ']', some '-'].contains (ahead verbose input.tail) then none else some t

def entry (verbose : Bool) : Reader Members := fun input => do
  let first ← element verbose input
  let start := first.skip (gap verbose first.rest)
  match rangeMark verbose start.rest with
  | none => do
    let m ← member? first.value
    some (start.map fun _ => m)
  | some hyphen => do
    let last ← element verbose hyphen.rest
    let m ← range? first.value last.value
    some (start.after (hyphen.after (last.map fun _ => m)))

/-- What may come next in a bracket. -/
inductive BracketPiece where
  | closing
  /-- Two signs that intersect what is before them with what is behind, or subtract it. -/
  | operation
  | entry (m : Members)
  | opening (negated : Bool) (first : List Members)

def hyphens (verbose : Bool) (input : List Char) : Nat × Left input :=
  match mark verbose '-' input with
  | some t =>
    let (n, others) := hyphens verbose t.rest
    (n + 1, t.left.next others)
  | none => (0, .all)
termination_by input.length
decreasing_by exact t.shorter

/--
Passes over the start of a bracket. Hyphens stand for themselves there, and so does a closing
bracket if nothing is before it.
-/
def bracketStart (verbose : Bool) (input : List Char) : BracketPiece × Left input :=
  let start := gap verbose input
  let (negated, start) := match mark verbose '^' start.rest with
    | some t => (true, start.next t.left)
    | none => (false, start)
  let (n, others) := hyphens verbose start.rest
  let start := start.next others
  match if n = 0 then mark verbose ']' start.rest else none with
  | some t => (.opening negated [.letter ⟨']', false⟩], start.next t.left)
  | none => (.opening negated (List.replicate n (.letter ⟨'-', false⟩)), start)

def bracketPiece (verbose : Bool) : Reader BracketPiece
  | [] => none
  | ']' :: _ => some (.front .closing)
  | '&' :: '&' :: _ => some (.behind (.front .operation))
  | '-' :: '-' :: _ => some (.behind (.front .operation))
  | '~' :: '~' :: _ => some (.behind (.front .operation))
  | '[' :: rest =>
    match asciiClass rest with
    | some t => some (t.behind.map .entry)
    | none =>
      let (piece, start) := bracketStart verbose rest
      some ((Taken.front piece).skip start)
  | input => (entry verbose input).map (·.map .entry)

structure BracketDraft where
  /-- What is before the last operation. -/
  left : Option Members := none
  /-- What is listed since then, the last in front. -/
  members : List Members := []

namespace BracketDraft

def content (d : BracketDraft) : Members :=
  let right := Members.ofList d.members.reverse
  match d.left with
  | some left => .combined left right
  | none => right

def push (d : BracketDraft) (m : Members) : BracketDraft := { d with members := m :: d.members }

def combine (d : BracketDraft) : BracketDraft := { left := d.content }

end BracketDraft

/-- Takes the content of a bracket, and the closing bracket. -/
def bracketContent (verbose : Bool) (d : BracketDraft) (input : List Char) :
    Option (Taken Members input) := do
  let start := gap verbose input
  let t := Taken.past start (← bracketPiece verbose start.rest)
  match t.value with
  | .closing => some (t.map fun _ => d.content)
  | .operation => do
    let others ← bracketContent verbose d.combine t.rest
    some (t.after others)
  | .entry m => do
    let others ← bracketContent verbose (d.push m) t.rest
    some (t.after others)
  | .opening negated first => do
    let inner := t.after (← bracketContent verbose { members := first } t.rest)
    let others ← bracketContent verbose (d.push (.bracket negated inner.value)) inner.rest
    some (inner.after others)
termination_by input.length
decreasing_by all_goals first | exact t.shorter | exact inner.shorter

def bracketed (verbose : Bool) : Reader Pattern := fun input =>
  match bracketStart verbose input with
  | (.opening negated first, start) => do
    let content ← bracketContent verbose { members := first } start.rest
    some (.past start (content.map (.bracket negated)))
  | _ => none

/-! ### Groups -/

def isName : List Char → Bool
  | [] => false
  | c :: cs =>
    (c == '_' || Text.isAlphabetic c) &&
      cs.all fun c => ['_', '.', '[', ']'].contains c || Text.isAlphanumeric c

/-- The letters for what a pattern can change; only some of it matters here. -/
def modeLetters : List Char := ['i', 'm', 's', 'R', 'U', 'u', 'x']

/-- What letters change, those behind a hyphen to the contrary. Each letter occurs only once. -/
def modeChange? (text : List Char) : Option ModeChange :=
  let on := text.takeWhile (· != '-')
  let rest := text.dropWhile (· != '-')
  let off := rest.tail
  let letters := on ++ off
  if (rest.isEmpty || !off.isEmpty) && letters.all modeLetters.contains && letters.Nodup then
    let state (c : Char) : Option Bool :=
      if on.contains c then some true else if off.contains c then some false else none
    some ⟨state 'i', state 'u', state 'x'⟩
  else none

/-- What may come next in a pattern. -/
inductive Piece where
  | bar
  | repetition
  | part (p : Pattern)
  | modes (change : ModeChange)
  | opening (name : Option String) (change : ModeChange)

/-- Takes the name of a group, and the sign behind it. -/
def groupName : Reader Piece := fun input => do
  let name := input.takeWhile (· != '>')
  let behind := skipWhile (· != '>') input
  let last ← char '>' behind.rest
  if isName name then
    some (.past behind (last.map fun _ => .opening (String.ofList name) {}))
  else none

/-- Takes letters for modes: those of the group that is opened, or of the one that is open. -/
def groupModes : Reader Piece := fun input => do
  let isLetter c := c != ':' && c != ')'
  let change ← modeChange? (input.takeWhile isLetter)
  let behind := skipWhile isLetter input
  match char ':' behind.rest with
  | some t => some (.past behind (t.map fun _ => .opening none change))
  | none => do
    let t ← char ')' behind.rest
    if (input.takeWhile isLetter).isEmpty then none
    else some (.past behind (t.map fun _ => .modes change))

/-- Takes the start of a group behind its parenthesis, unless that is all there is of it. -/
def groupStart : Reader Piece
  | '?' :: 'P' :: '<' :: rest => (groupName rest).map fun t => t.behind.behind.behind
  | '?' :: '<' :: rest => (groupName rest).map fun t => t.behind.behind
  | '?' :: rest => (groupModes rest).map .behind
  | _ => none

/-- Passes over the mark of a repetition that is as short as possible. -/
def shortest : Skip
  | '?' :: _ => Left.behind .all
  | _ => .all

def piece (verbose : Bool) : Reader Piece
  | '|' :: _ => some (.front .bar)
  | '?' :: rest => some ((Taken.front .repetition).skip (shortest rest))
  | '*' :: rest => some ((Taken.front .repetition).skip (shortest rest))
  | '+' :: rest => some ((Taken.front .repetition).skip (shortest rest))
  | '\x7b' :: _ => none
  | '[' :: rest => (bracketed verbose rest).map fun t => t.behind.map .part
  | '(' :: rest =>
    let start := gap verbose rest
    if start.rest.head? == some '?' then
      (groupStart start.rest).map fun t => (Taken.past start t).behind
    else some ((Taken.front (.opening none {})).skip start)
  | input => (atom verbose input).map (·.map .part)

structure Draft where
  /-- The branches that are complete, the last in front. -/
  branches : List Pattern := []
  /-- The parts of the branch at hand, the last in front. -/
  parts : List Pattern := []

namespace Draft

def allBranches (d : Draft) : List Pattern := ofParts d.parts.reverse :: d.branches

def body (d : Draft) : Pattern := ofBranches d.allBranches.reverse

def push (d : Draft) (p : Pattern) : Draft := { d with parts := p :: d.parts }

/-- The next branch starts. -/
def bar (d : Draft) : Draft := { branches := d.allBranches }

/-- The last part is repeated. There has to be one that is more than a change of modes. -/
def repeat? (d : Draft) : Option Draft :=
  match d.parts with
  | [] | .modes _ :: _ => none
  | p :: ps => some { d with parts := .repeated p :: ps }

end Draft

/-- Takes the rest of a group up to its closing parenthesis, or to the end of the text. -/
def groupBody (verbose : Bool) (d : Draft) (input : List Char) :
    Option (Pattern × Left input) := do
  let start := gap verbose input
  if start.rest.head?.all (· == ')') then some (d.body, start)
  else do
    let t := Taken.past start (← piece verbose start.rest)
    match t.value with
    | .bar => do
      let (body, rest) ← groupBody verbose d.bar t.rest
      some (body, t.left.next rest)
    | .repetition => do
      let (body, rest) ← groupBody verbose (← d.repeat?) t.rest
      some (body, t.left.next rest)
    | .part p => do
      let (body, rest) ← groupBody verbose (d.push p) t.rest
      some (body, t.left.next rest)
    | .modes change => do
      let verbose := change.verbose.getD verbose
      let (body, rest) ← groupBody verbose (d.push (.modes change)) t.rest
      some (body, t.left.next rest)
    | .opening name change => do
      let (inner, rest) ← groupBody (change.verbose.getD verbose) {} t.rest
      let closed := t.after (.past rest (← char ')' rest.rest))
      let (body, rest) ← groupBody verbose (d.push (.group name change inner)) closed.rest
      some (body, closed.left.next rest)
termination_by input.length
decreasing_by all_goals first | exact t.shorter | exact closed.shorter

def ofText? (text : String) : Option Pattern := do
  let (body, rest) ← groupBody false {} text.toList
  if rest.rest.isEmpty then some body else none

end GatewayCache.Pattern
