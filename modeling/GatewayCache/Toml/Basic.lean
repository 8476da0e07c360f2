/-! TOML values and tables. -/
namespace GatewayCache.Toml

/-- What a key may be set to. Floats and dates keep their text. -/
inductive Value where
  | string (s : String)
  | integer (n : Int)
  | float (text : String)
  | boolean (b : Bool)
  | datetime (text : String)
  | array (items : List Value)
  /-- A table in braces, or one that dotted keys inside braces stand for. -/
  | table (dotted : Bool) (entries : List (String × Value))
deriving Inhabited

/-- What stands under a key of a document. -/
inductive Node where
  | value (v : Value)
  /--
  A table. It is implicit as long as only longer names mention it, and dotted when dotted keys
  do.
  -/
  | table (implicit dotted : Bool) (entries : List (String × Node))
  /-- The tables of an array that headers extend; the last one is open. -/
  | tables (elements : List (List (String × Node)))
deriving Inhabited

/-- Puts a value under a key, in place of the one that is there or behind the others. -/
def setEntry {α : Type} (key : String) (value : α) : List (String × α) → List (String × α)
  | [] => [(key, value)]
  | (k, v) :: rest => if k = key then (k, value) :: rest else (k, v) :: setEntry key value rest

/-- A table of a document. -/
structure Table where
  implicit : Bool := false
  dotted : Bool := false
  entries : List (String × Node) := []
deriving Inhabited

namespace Table

def node (t : Table) : Node := .table t.implicit t.dotted t.entries

def get? (t : Table) (key : String) : Option Node := t.entries.lookup key

def set (t : Table) (key : String) (n : Node) : Table :=
  { t with entries := setEntry key n t.entries }

/--
Changes the table that a path leads to. Tables on the way that do not exist come into being as
implicit ones; an array of tables leads on to its last table. Dotted keys may not enter a table
that a header has defined.
-/
def alterAt (dotted : Bool) (f : Table → Option Table) : List String → Table → Option Table
  | [], t => f t
  | key :: path, t =>
    match t.get? key with
    | none => do
      let child ← alterAt dotted f path { implicit := true, dotted }
      some (t.set key child.node)
    | some (.value _) => none
    | some (.table implicit isDotted entries) =>
      if dotted && !implicit then none
      else do
        let child ← alterAt dotted f path { implicit, dotted := isDotted, entries }
        some (t.set key child.node)
    | some (.tables elements) => do
      let last ← elements.getLast?
      let child ← alterAt dotted f path { entries := last }
      some (t.set key (.tables (elements.dropLast ++ [child.entries])))

/-- Sets a key, dotted or not, that must not be set already. -/
def define (path : List String) (key : String) (v : Value) : Table → Option Table :=
  alterAt true (fun t =>
    if t.dotted == path.isEmpty || (t.get? key).isSome then none
    else some (t.set key (.value v))) path

end Table

/--
Sets the key that a path of dotted keys leads to in a table in braces. The tables on the way have
to be such as dotted keys stand for.
-/
def defineInline (key : String) (v : Value) :
    List String → List (String × Value) → Option (List (String × Value))
  | [], entries => if (entries.lookup key).isSome then none else some (setEntry key v entries)
  | part :: path, entries =>
    match entries.lookup part with
    | none => do
      let child ← defineInline key v path []
      some (setEntry part (.table true child) entries)
    | some (.table true inner) => do
      let child ← defineInline key v path inner
      some (setEntry part (.table true child) entries)
    | some _ => none

/-- The table in braces that a list of dotted keys with their values makes up. -/
def inlineTable? (pairs : List (List String × String × Value)) : Option Value := do
  let entries ← pairs.foldlM (fun entries (path, key, v) =>
    defineInline key v path entries) []
  some (.table false entries)

end GatewayCache.Toml
