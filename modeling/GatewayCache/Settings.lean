import GatewayCache.Retention
import GatewayCache.Toml.Document

/-!
Settings: what to retain, from a file and from the environment. A file that cannot be used is an
error whatever the environment says; otherwise the environment goes before the file.
-/
namespace GatewayCache

/-- What is found at a path. -/
inductive FileState where
  | absent
  | directory
  /-- A file that is there and that the program may not open. -/
  | locked
  | content (bytes : ByteArray)

namespace Settings

/-- The environment variable that overrides the file. -/
def retainVariable : String := "GUILDCACHE_RETAIN"

/-- Why the text of a settings file cannot be used. -/
inductive TextError where
  /-- It is not TOML, or a value has the wrong type. -/
  | malformed
  | unknownCategory (name : String)
deriving DecidableEq

/-- The wording for a name that is no category. -/
def unknownCategoryMessage (name : String) : String := "unknown cache category '" ++ name ++ "'"

/-! ### The file -/

/-- The strings of an array that holds nothing else. -/
def strings? : Toml.Value → Option (List String)
  | .array items => items.mapM fun
    | .string s => some s
    | _ => none
  | _ => none

/-- The names under `retain` in a section, if it has that key; fails on anything but strings. -/
def retainNames? (retain : Option Toml.Value) : Option (Option (List String)) :=
  match retain with
  | none => some none
  | some v => (strings? v).map some

/-- The value that a node stands for, if no header had to define it. -/
def plainValue? : Toml.Node → Option Toml.Value
  | .value v => some v
  | .table .. | .tables _ => none

/--
The names to retain in a document, if it gives any; fails on a wrong type. The section may also be
an array whose first item is the list, and a date has no keys.
-/
def namesIn? (document : Toml.Table) : Option (Option (List String)) :=
  match document.get? "cache" with
  | none => some none
  | some (.table _ _ entries) =>
    match entries.lookup "retain" with
    | none => some none
    | some n => do retainNames? (some (← plainValue? n))
  | some (.value (.table _ entries)) => retainNames? (entries.lookup "retain")
  | some (.value (.array items)) => retainNames? items.head?
  | some (.value (.datetime _)) => some none
  | some _ => none

/-- Reads a list of names; an unknown one is an error. -/
def retentionOf (names : List String) : Except TextError Retention :=
  match Retention.parseAll names with
  | .ok r => .ok r
  | .error name => .error (.unknownCategory name)

/-- What the text of a settings file says to retain. -/
def ofText (text : String) : Except TextError Retention :=
  match (Toml.parse? text).bind namesIn? with
  | none => .error .malformed
  | some none => .ok .standard
  | some (some names) => retentionOf names

/-! ### The environment -/

/-- The names in the value of the environment variable: commas separate them, and blanks are none. -/
def namesInVariable (value : String) : List String :=
  ((value.splitOn ",").map Text.trim).filter (! ·.isEmpty)

/-! ### Both -/

/-- Why there are no settings. -/
inductive LoadError where
  /-- The file is there but cannot be opened, or is no text. -/
  | unreadable
  | badFile (cause : TextError)
  | badVariable (name : String)
deriving DecidableEq

namespace LoadError

def message (path : String) : LoadError → String
  | unreadable => "failed to read config file " ++ path
  | badFile _ => "failed to parse config file " ++ path
  | badVariable _ => "invalid " ++ retainVariable

/-- The wording of what is behind an error, where this library words it. -/
def cause? : LoadError → Option String
  | unreadable => none
  | badFile .malformed => none
  | badFile (.unknownCategory name) => some (unknownCategoryMessage name)
  | badVariable name => some (unknownCategoryMessage name)

end LoadError

/-- What a settings file says to retain; without a file, the standard categories. -/
def ofFile : FileState → Except LoadError Retention
  | .absent => .ok .standard
  | .directory | .locked => .error .unreadable
  | .content bytes =>
    match String.fromUTF8? bytes with
    | none => .error .unreadable
    | some text =>
      match ofText text with
      | .ok r => .ok r
      | .error cause => .error (.badFile cause)

/-- What to retain, from the file and the value of the environment variable. -/
def load (file : FileState) (setting : Option String) : Except LoadError Retention := do
  let fromFile ← ofFile file
  match setting with
  | none => .ok fromFile
  | some value =>
    match Retention.parseAll (namesInVariable value) with
    | .ok r => .ok r
    | .error name => .error (.badVariable name)

end Settings

end GatewayCache
