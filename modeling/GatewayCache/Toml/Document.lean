import GatewayCache.Toml.Reader

/-! Reading TOML documents: lines of keys and headers, and the tables that they build. -/
namespace GatewayCache.Toml

open Text

/-- A line of a document. -/
inductive Line where
  /-- Nothing but white space or a comment. -/
  | blank
  /-- A key is set in the open table. -/
  | setting (path : List String) (key : String) (v : Value)
  /-- A table is opened, which no header may have opened before. -/
  | header (path : List String) (key : String)
  /-- One more table of an array is opened. -/
  | element (path : List String) (key : String)

/-- Passes over a comment. -/
def skipComment : Skip := fun input =>
  match comment input with
  | some t => t.left
  | none => .all

/-- Passes over white space, a comment and the end of the line, or up to the end of the text. -/
def lineEnd (input : List Char) : Option (Left input) :=
  let gap := skipSpace input
  let behind := gap.next (skipComment gap.rest)
  if behind.rest.isEmpty then some behind
  else (newline behind.rest).map fun t => behind.next t.left

/-- Takes what a line says, without its end. -/
def statement : Reader Line := fun input =>
  match word '[' ['['] input, char '[' input with
  | some start, _ => do
    let k ← key start.rest
    let last ← word ']' [']'] k.rest
    some (start.after (k.after (last.map fun _ => .element k.value.1 k.value.2)))
  | none, some start => do
    let k ← key start.rest
    let last ← char ']' k.rest
    some (start.after (k.after (last.map fun _ => .header k.value.1 k.value.2)))
  | none, none =>
    (keyValue (value maxDepth) input).map fun t =>
      t.map fun (path, key, v) => .setting path key v

/-- Takes a comment or a statement, each with the end of its line. -/
def fullLine : Reader Line := fun input => do
  let one ← (comment input).map (·.map fun _ => .blank) <|> statement input
  let left ← lineEnd one.rest
  some (one.skip left)

/-- Takes white space, an empty line or a full one, and marks the last of them. -/
def linePiece : Reader (List Line × Bool) := fun input => do
  let one ← (space input).map (·.map fun _ => .blank) <|>
    (newline input).map (·.map fun _ => .blank) <|> fullLine input
  some (one.map fun l => ([l], one.rest.isEmpty))

/-- Takes all lines up to the end of the text. -/
def lines? (input : List Char) : Option (List Line) :=
  if input.isEmpty then some [] else (untilLast linePiece input).map (·.value)

/-! ### Building -/

/-- Where the open table goes when it is closed. -/
inductive Place where
  | root
  | table (path : List String) (key : String)
  | element (path : List String) (key : String)

/-- A document under construction: what is closed, and the open table. -/
structure Draft where
  root : Table := {}
  place : Place := .root
  current : Table := {}

namespace Draft

def close (d : Draft) : Option Table :=
  match d.place with
  | .root => some d.current
  | .table path key => d.root.alterAt false (fun t => some (t.set key d.current.node)) path
  | .element path key =>
    d.root.alterAt false (fun t =>
      match t.get? key with
      | none => some (t.set key (.tables [d.current.entries]))
      | some (.tables elements) => some (t.set key (.tables (elements ++ [d.current.entries])))
      | some _ => none) path

/-- Opens a table. It may exist already, but only because longer names mention it. -/
def openTable (root : Table) (path : List String) (key : String) : Option Draft := do
  let parent ← root.alterAt false some path
  let found := find path parent
  match found with
  | none => some { root := parent, place := .table path key }
  | some (.table true false entries) =>
    some { root := parent, place := .table path key, current := { entries } }
  | some _ => none
where
  /-- What stands under the key in the table that the path leads to. -/
  find : List String → Table → Option Node
    | [], t => t.get? key
    | part :: path, t =>
      match t.get? part with
      | some (.table implicit dotted entries) => find path { implicit, dotted, entries }
      | some (.tables elements) => (elements.getLast?).bind fun last => find path { entries := last }
      | _ => none

/-- Opens one more table of an array. -/
def openElement (root : Table) (path : List String) (key : String) : Option Draft := do
  let checked ← root.alterAt false (fun t =>
    match t.get? key with
    | none => some (t.set key (.tables []))
    | some (.tables _) => some t
    | some _ => none) path
  some { root := checked, place := .element path key }

def add (d : Draft) : Line → Option Draft
  | .blank => some d
  | .setting path key v => do
    let current ← d.current.define path key v
    some { d with current }
  | .header path key => do openTable (← d.close) path key
  | .element path key => do openElement (← d.close) path key

end Draft

/-- The document that a text consists of; a byte order mark may stand in front. -/
def parse? (text : String) : Option Table := do
  let cs := match text.toList with
    | '\ufeff' :: rest => rest
    | cs => cs
  let lines ← lines? cs
  let draft ← lines.foldlM Draft.add {}
  draft.close

end GatewayCache.Toml
