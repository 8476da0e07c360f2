import GatewayCache.Json.Basic

/-! Writing JSON text, without white space between tokens. -/
namespace GatewayCache.Json

/-- The hexadecimal digit of a value below sixteen. -/
def hexDigit (n : Nat) : Char := "0123456789abcdef".toList[n]?.getD '0'

/-- A character as it stands in a string; quotes, backslashes and control characters are escaped. -/
def writeChar (c : Char) : List Char :=
  if c = '"' then ['\\', '"']
  else if c = '\\' then ['\\', '\\']
  else if c.toNat < 0x20 then
    ['\\', 'u', '0', '0', hexDigit (c.toNat / 16), hexDigit (c.toNat % 16)]
  else [c]

def writeString (s : String) : String :=
  String.ofList ('"' :: s.toList.flatMap writeChar ++ ['"'])

/-- A number, such that reading it gives the number back. -/
def writeNumber : Number → String
  | .integer value => toString value
  | .real negative digits exponent =>
    (if negative then "-" else "") ++ toString digits ++ "e" ++ toString exponent

mutual

/-- A document as text. What is unreadable stays so, as a number beyond the doubles. -/
def write : Json → String
  | .null => "null"
  | .bool true => "true"
  | .bool false => "false"
  | .number n => writeNumber n
  | .string s => writeString s
  | .array items => "[" ++ String.intercalate "," (writeItems items) ++ "]"
  | .object members => "\x7b" ++ String.intercalate "," (writeMembers members) ++ "\x7d"
  | .unreadable => "1e999"

def writeItems : List Json → List String
  | [] => []
  | item :: items => write item :: writeItems items

def writeMembers : List (String × Json) → List String
  | [] => []
  | (key, value) :: members => (writeString key ++ ":" ++ write value) :: writeMembers members

end

end GatewayCache.Json
