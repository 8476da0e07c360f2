/-!
Patterns: regular expressions, as the value of a field may be described by one. They are matched
without the tables of Unicode, and always whole characters, so not every pattern is of use.
-/
namespace GatewayCache

namespace Pattern

structure Mode where
  /-- Whether letters of both cases are the same. -/
  caseless : Bool := false
  /-- Whether characters are matched, and not bytes. -/
  unicode : Bool := true
deriving DecidableEq

/-- What a pattern changes in how it is read and meant from there on. -/
structure ModeChange where
  caseless : Option Bool := none
  unicode : Option Bool := none
  /-- Whether white space and comments are passed over. -/
  verbose : Option Bool := none
deriving DecidableEq

def Mode.after (m : Mode) (c : ModeChange) : Mode :=
  ⟨c.caseless.getD m.caseless, c.unicode.getD m.unicode⟩

/-- A character that stands for itself. -/
structure Letter where
  char : Char
  /-- Whether it is written with two hexadecimal digits, which may mean a byte. -/
  isByte : Bool := false
deriving DecidableEq

/-- What a bracket lists. -/
inductive Members where
  | nothing
  | letter (l : Letter)
  | range (first last : Letter)
  /-- Digits, white space or word characters, or all others. -/
  | shorthand (negated : Bool)
  /-- A class of ASCII characters, or all other characters. -/
  | named (negated : Bool)
  | bracket (negated : Bool) (content : Members)
  /-- The first of several members, and the list of the others. -/
  | union (first rest : Members)
  /-- The intersection of two sets, or one of their differences. -/
  | combined (left right : Members)
deriving DecidableEq

end Pattern

/-- A regular expression, as far as it matters whether it is of use. -/
inductive Pattern where
  | empty
  | letter (l : Pattern.Letter)
  | anyLetter
  /-- A place and no character: the end of a word, or that of a line or of the text. -/
  | edge (ofWord : Bool)
  | shorthand (negated : Bool)
  | bracket (negated : Bool) (content : Pattern.Members)
  /-- A change for all that follows in the same group. -/
  | modes (change : Pattern.ModeChange)
  | group (name : Option String) (change : Pattern.ModeChange) (body : Pattern)
  | repeated (body : Pattern)
  /-- The first of several parts, and the sequence of the others. -/
  | sequence (first rest : Pattern)
  /-- The first of several branches, and the choice from the others. -/
  | choice (first rest : Pattern)
deriving DecidableEq

namespace Pattern

/-! ### Nesting -/

namespace Members

/-- The content of a bracket from what it lists. -/
def ofList : List Members → Members
  | [] => .nothing
  | [m] => m
  | m :: ms => .union m (ofList ms)

def isUnion : Members → Bool
  | .union _ _ => true
  | _ => false

/-- How deep brackets, lists and operations are nested. -/
def depth : Members → Nat
  | .nothing | .letter _ | .range _ _ | .shorthand _ | .named _ => 0
  | .bracket _ content => content.depth + 1
  | .union first rest =>
    max (first.depth + 1) (if rest.isUnion then rest.depth else rest.depth + 1)
  | .combined left right => max left.depth right.depth + 1

end Members

/-- What parts amount to in sequence. -/
def ofParts : List Pattern → Pattern
  | [] => .empty
  | [p] => p
  | p :: ps => .sequence p (ofParts ps)

/-- What branches amount to as a choice. -/
def ofBranches : List Pattern → Pattern
  | [] => .empty
  | [p] => p
  | p :: ps => .choice p (ofBranches ps)

def isSequence : Pattern → Bool
  | .sequence _ _ => true
  | _ => false

def isChoice : Pattern → Bool
  | .choice _ _ => true
  | _ => false

/-- How deep the parts of a pattern are nested. -/
def depth : Pattern → Nat
  | .empty | .letter _ | .anyLetter | .edge _ | .shorthand _ | .modes _ => 0
  | .bracket _ content => content.depth + 1
  | .group _ _ body => body.depth + 1
  | .repeated body => body.depth + 1
  | .sequence first rest =>
    max (first.depth + 1) (if rest.isSequence then rest.depth else rest.depth + 1)
  | .choice first rest =>
    max (first.depth + 1) (if rest.isChoice then rest.depth else rest.depth + 1)

def names : Pattern → List String
  | .group name _ body => name.toList ++ body.names
  | .repeated body => body.names
  | .sequence first rest | .choice first rest => first.names ++ rest.names
  | _ => []

/-! ### Use -/

namespace Letter

def isAscii (l : Letter) : Bool := l.char.toNat < 0x80

/--
Whether a letter is of use by itself: without tables it has no other case, and a byte beyond ASCII
is no character.
-/
def isUsable (m : Mode) (l : Letter) : Bool :=
  if m.unicode then !m.caseless else l.isAscii || !l.isByte

/-- Whether a letter is of use in a bracket, where bytes are listed if not characters. -/
def isListable (m : Mode) (l : Letter) : Bool :=
  if m.unicode then !m.caseless else l.isAscii

end Letter

/-- Whether a shorthand is of use: without tables only the bytes that it lists are known. -/
def isUsableShorthand (m : Mode) (negated : Bool) : Bool := !m.unicode && !negated

/--
Whether the content of a bracket is of use. A set of bytes must not be turned around, because then
it holds bytes that are no characters.
-/
def Members.isUsable (m : Mode) : Members → Bool
  | .nothing => true
  | .letter l => l.isListable m
  | .range first last => first.isListable m && last.isListable m
  | .shorthand negated => isUsableShorthand m negated
  | .named negated => if m.unicode then !m.caseless else !negated
  | .bracket negated content => (m.unicode || !negated) && content.isUsable m
  | .union first rest => first.isUsable m && rest.isUsable m
  | .combined left right => left.isUsable m && right.isUsable m

/-- The mode behind a pattern, if all its parts are of use. -/
def modeBehind? (m : Mode) : Pattern → Option Mode
  | .empty => some m
  | .letter l => if l.isUsable m then some m else none
  | .anyLetter => if m.unicode then some m else none
  | .edge ofWord => if ofWord && m.unicode then none else some m
  | .shorthand negated => if isUsableShorthand m negated then some m else none
  | .bracket negated content =>
    if (Members.bracket negated content).isUsable m then some m else none
  | .modes change => some (m.after change)
  | .group _ change body => (body.modeBehind? (m.after change)).map fun _ => m
  | .repeated body => body.modeBehind? m
  | .sequence first rest | .choice first rest => do rest.modeBehind? (← first.modeBehind? m)

def depthLimit : Nat := 250

/-- Whether a pattern can be matched. -/
def isUsable (p : Pattern) : Bool :=
  (p.modeBehind? {}).isSome && p.depth ≤ depthLimit && p.names.Nodup

end Pattern

end GatewayCache
