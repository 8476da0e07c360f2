import GatewayCache.Json.Basic
import GatewayCache.Permissions.Basic
import GatewayCache.Timestamp.Reader
import GatewayCache.Timestamp.Writer

/-! Codecs: how a value is read from a JSON document and written as one. -/
namespace GatewayCache

/--
How a document is read. What is read directly is read as it comes, and what has no meaning in it is
passed over unseen. What is held is first taken in as a whole, because its type does not show yet or
because several readers share its keys.
-/
inductive Reading where
  | direct
  | held
deriving DecidableEq

/-- Why a document is not the written form of a value. -/
inductive DecodeError where
  /-- The text is not one JSON document, or not readable where it matters. -/
  | malformed
  /-- A required key is absent. -/
  | missingField (key : String)
  /-- A name is none of those an enumeration has. -/
  | unknownVariant (name : String)
  /-- A key with a meaning occurs more than once in one object. -/
  | duplicateField (key : String)
  /-- A value has the wrong type or is out of range. -/
  | invalid
deriving DecidableEq

/-- The wording of an error that names something. -/
def DecodeError.message? : DecodeError → Option String
  | malformed => none
  | missingField key => some ("missing field `" ++ key ++ "`")
  | unknownVariant name => some ("unknown variant `" ++ name ++ "`")
  | duplicateField key => some ("duplicate field `" ++ key ++ "`")
  | invalid => none

def DecodeError.reason (e : DecodeError) : String :=
  e.message?.getD (if e = malformed then "malformed document" else "invalid value")

/-- A way to read a type from JSON and to write it. -/
structure Codec (α : Type) where
  read : Reading → Json → Except DecodeError α
  encode : α → Json

namespace Codec

variable {α β : Type}

def decode (codec : Codec α) (j : Json) : Except DecodeError α := codec.read .direct j

/-- The same values, out of documents that are readable throughout. -/
def whole (codec : Codec α) : Codec α where
  read r j := if j.isReadable then codec.read r j else .error .malformed
  encode := codec.encode

/-- Every document stands for itself. -/
def document : Codec Json := ⟨fun _ j => .ok j, id⟩

/-- Integers from `low` to `high`, written as integer literals. -/
def integer (low high : Int) (ofInt : Int → α) (toInt : α → Int) : Codec α where
  read
    | _, .number (.integer n) => if low ≤ n ∧ n ≤ high then .ok (ofInt n) else .error .invalid
    | _, _ => .error .invalid
  encode a := .ofInt (toInt a)

def word8 : Codec UInt8 := integer 0 (UInt8.size - 1) (fun n => .ofNat n.toNat) (·.toNat)

def word32 : Codec UInt32 := integer 0 (UInt32.size - 1) (fun n => .ofNat n.toNat) (·.toNat)

def word64 : Codec UInt64 := integer 0 (UInt64.size - 1) (fun n => .ofNat n.toNat) (·.toNat)

def int32 : Codec Int32 := integer Int32.minValue.toInt Int32.maxValue.toInt .ofInt (·.toInt)

def int64 : Codec Int64 := integer Int64.minValue.toInt Int64.maxValue.toInt .ofInt (·.toInt)

def bool : Codec Bool where
  read
    | _, .bool b => .ok b
    | _, _ => .error .invalid
  encode := .bool

def string : Codec String where
  read
    | _, .string s => .ok s
    | _, _ => .error .invalid
  encode := .string

/-- Timestamps, as text. -/
def timestamp : Codec Timestamp where
  read
    | _, .string s => match Timestamp.parse? s with
      | some t => .ok t
      | none => .error .invalid
    | _, _ => .error .invalid
  encode t := .string t.render

/-- Permission sets, as a word; unknown bits are dropped. -/
def permissions : Codec Permissions where
  read r j := (word64.read r j).map Permissions.ofWord
  encode s := word64.encode s.toWord

/-- The member of an enumeration with a given name. -/
def member (members : List α) (name : α → String) (s : String) : Except DecodeError α :=
  match members.find? (name · == s) with
  | some a => .ok a
  | none => .error (.unknownVariant s)

/-- The member of an enumeration at the place that a number tells. -/
def memberAt (members : List α) : Json.Number → Except DecodeError α
  | .integer (.ofNat place) =>
    match members[place]? with
    | some a => .ok a
    | none => .error .invalid
  | _ => .error .invalid

/--
The members of an enumeration that tells what else a document holds, as names. In what is held, the
place of a member in the enumeration may stand for its name.
-/
def tag (members : List α) (name : α → String) : Codec α where
  read
    | _, .string s => member members name s
    | .held, .number n => memberAt members n
    | _, _ => .error .invalid
  encode a := .string (name a)

/-- Whether a document stands for the content of a name that has none. -/
def isNothing : Reading → Json → Bool
  | _, .null => true
  | .held, .object [] => true
  | _, _ => false

/--
The members of an enumeration, each under its name. A name may also be the only key of an object,
with nothing under it.
-/
def named (members : List α) (name : α → String) : Codec α where
  read
    | _, .string s => member members name s
    | r, .object ((s, content) :: others) =>
      if r = .held ∧ ¬others.isEmpty then .error .invalid
      else do
        let a ← member members name s
        if others.isEmpty && isNothing r content then .ok a else .error .invalid
    | _, _ => .error .invalid
  encode a := .string (name a)

/-- Values that may be `null`. -/
def nullable (codec : Codec α) : Codec (Option α) where
  read
    | _, .null => .ok none
    | r, j => (codec.read r j).map some
  encode
    | none => .null
    | some a => codec.encode a

def list (codec : Codec α) : Codec (List α) where
  read
    | r, .array items => items.mapM (codec.read r)
    | _, _ => .error .invalid
  encode as := .array (as.map codec.encode)

/-- The same documents, read as another type. -/
def as (codec : Codec α) (make : α → β) (split : β → α) : Codec β where
  read r j := (codec.read r j).map make
  encode b := codec.encode (split b)

end Codec

end GatewayCache
