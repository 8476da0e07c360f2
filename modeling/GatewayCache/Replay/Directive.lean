import GatewayCache.Pattern.Reader
import GatewayCache.Replay.Log
import GatewayCache.Text.Double

/-!
Directives: how much is shown of the records that have a certain target and field. The names in a
directive lie at byte offsets from its first visible character, and they are cut out at these
offsets from the very start of the text; so white space in front moves them all.
-/
namespace GatewayCache.Log

open Text (dropBlank isBlank ofDigits)

/-! ### Verbosity -/

/-- How much is shown: every record up to a level, or nothing. -/
structure Verbosity where
  rank : Nat
deriving DecidableEq

namespace Verbosity

def everything : Verbosity := ⟨Level.trace.rank⟩

/-- Reads a number from 0 to 5; a plus sign may stand in front. -/
def ofNumber? (text : String) : Option Verbosity :=
  let digits := match text.toList with
    | '+' :: digits => digits
    | digits => digits
  if !digits.isEmpty && digits.all Char.isDigit && ofDigits digits ≤ everything.rank then
    some ⟨ofDigits digits⟩
  else none

/-- Reads the name of a level in any case, `off`, or a number. -/
def ofText? (text : String) : Option Verbosity :=
  let name := Text.lowerAscii text
  match Level.all.find? fun l => Text.lowerAscii l.name = name with
  | some l => some ⟨l.rank⟩
  | none => if name = "off" then some ⟨0⟩ else ofNumber? text

def shows (v : Verbosity) (r : Record) : Bool := r.level.rank ≤ v.rank

end Verbosity

/-! ### Directives -/

/-- How much is shown of the records with a certain target and field. -/
structure Directive where
  /-- What the target of a record starts with; without one, every target is meant. -/
  target : Option String := none
  /-- What has to be among the keys of a record. -/
  key : Option String := none
  /-- Whether only records within a span are meant. No span is ever open here. -/
  inSpan : Bool := false
  verbosity : Verbosity := .everything
deriving DecidableEq

namespace Directive

def appliesTo (d : Directive) (r : Record) : Bool :=
  !d.inSpan && (d.target.all fun t => t.toList.isPrefixOf r.target.toList) &&
    d.key.all r.keys.contains

/-- The length of the target, where no target is shorter than the empty one. -/
def reach (d : Directive) : Nat := (d.target.map fun t => t.utf8ByteSize + 1).getD 0

/--
Whether a directive is more specific than another one: its target is longer, or else it alone names
a key, or else its key is the later one.
-/
def isAbove (a b : Directive) : Bool :=
  b.reach < a.reach || (a.reach == b.reach &&
    match a.key, b.key with
    | some _, none => true
    | some x, some y => y < x
    | none, _ => false)

end Directive

/-! ### Cutting -/

inductive DirectiveError where
  /-- It does not have the form of a directive. -/
  | malformed
  /-- A name would start or end within a character. -/
  | misaligned
deriving DecidableEq

def byteSize : List Char → Nat
  | [] => 0
  | c :: cs => c.utf8Size + byteSize cs

/-- The characters behind a number of bytes, unless that is within a character. -/
def dropBytes? : Nat → List Char → Option (List Char)
  | 0, cs => some cs
  | _ + 1, [] => none
  | n + 1, c :: cs => if c.utf8Size ≤ n + 1 then dropBytes? (n + 1 - c.utf8Size) cs else none

/-- The characters in a number of bytes, unless the end is within a character. -/
def takeBytes? : Nat → List Char → Option (List Char)
  | 0, _ => some []
  | _ + 1, [] => none
  | n + 1, c :: cs =>
    if c.utf8Size ≤ n + 1 then (takeBytes? (n + 1 - c.utf8Size) cs).map (c :: ·) else none

/-- A part of a directive that begins some bytes behind the start. -/
structure Offset where
  bytes : Nat
  rest : List Char

namespace Offset

/-- What lies behind characters that are found here, and one more. -/
def behind (o : Offset) (found : List Char) : Offset :=
  let rest := o.rest.drop found.length
  ⟨o.bytes + byteSize (found ++ rest.take 1), rest.tail⟩

/-- Cuts out as much of a text as characters take that are found here. -/
def cut (o : Offset) (text found : List Char) : Except DirectiveError String :=
  match (dropBytes? o.bytes text).bind (takeBytes? (byteSize found)) with
  | some cs => .ok (String.ofList cs)
  | none => .error .misaligned

/-- Cuts out all of a text from here on. -/
def cutAll (o : Offset) (text : List Char) : Except DirectiveError String :=
  match dropBytes? o.bytes text with
  | some cs => .ok (String.ofList cs)
  | none => .error .misaligned

end Offset

namespace Directive

/-! ### Reading -/

def isStart (c : Char) : Bool :=
  c == '-' || c == ':' || c == '_' || Text.isAlphanumeric c

/-- Whether a value can be asked of a field: a number, or a pattern that is of use. -/
def isValue (text : String) : Bool :=
  Text.isDouble text || (Pattern.ofText? text).any (·.isUsable)

/-- Adds the verbosity from the level that a text gives. Without a level, everything is shown. -/
def withLevel (d : Directive) (level : String) : Except DirectiveError Directive :=
  if level.isEmpty then .ok d
  else match Verbosity.ofText? level with
    | some verbosity => .ok { d with verbosity }
    | none => .error .malformed

/-- Reads on behind a closing bracket: nothing follows, or an equals sign and the level. -/
def behindBracket (text : List Char) (d : Directive) (o : Offset) :
    Except DirectiveError Directive :=
  match o.rest with
  | '=' :: _ => do d.withLevel (← (o.behind []).cutAll text)
  | rest => if rest.all isBlank then .ok d else .error .malformed

/-- Adds the field that a text gives: a key, and maybe a value that only spans can have. -/
def withField (d : Directive) (field : String) : Except DirectiveError Directive :=
  match field.splitOn "=" with
  | key :: value :: _ =>
    if isValue value then .ok { d with key, inSpan := true } else .error .malformed
  | _ => if field.isEmpty then .error .malformed else .ok { d with key := field }

/-- Reads on behind an opening bracket: the name of a span, or a field in braces, or both. -/
def inBracket (text : List Char) (target : Option String) (o : Offset) :
    Except DirectiveError Directive :=
  let span := o.rest.takeWhile fun c => c != ']' && c != '\x7b'
  match o.rest.drop span.length with
  | ']' :: _ => do
    let _ ← o.cut text span
    behindBracket text { target, inSpan := true } (o.behind span)
  | _ :: _ => do
    let name ← o.cut text span
    let o := o.behind span
    let field := o.rest.takeWhile (· != '\x7d')
    match o.rest.drop field.length with
    | [] => .error .malformed
    | _ :: rest => do
      let d ← withField { target, inSpan := !name.isEmpty } (← o.cut text field)
      match rest with
      | ']' :: _ => behindBracket text d ((o.behind field).behind [])
      | _ => .error .malformed
  | [] => .error .malformed

/-- Reads a directive. A lone word is a level or, failing that, a target. -/
def ofText (text : String) : Except DirectiveError Directive :=
  let cs := text.toList
  let visible : Offset := ⟨0, dropBlank cs⟩
  match visible.rest with
  | [] => .error .malformed
  | '[' :: _ => inBracket cs none (visible.behind [])
  | c :: _ =>
    if isStart c then
      let name := visible.rest.takeWhile fun c => c != '=' && c != '['
      match visible.rest.drop name.length with
      | [] =>
        match Verbosity.ofText? text with
        | some verbosity => .ok { verbosity }
        | none => .ok { target := text }
      | '=' :: _ => do
        let target ← visible.cut cs name
        withLevel { target } (← (visible.behind name).cutAll cs)
      | _ :: _ => do inBracket cs (← visible.cut cs name) (visible.behind name)
    else .error .malformed

end Directive

end GatewayCache.Log
