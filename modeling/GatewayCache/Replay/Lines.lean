/-! The lines of a file. -/
namespace GatewayCache.Replay

/-- The lines of a file up to the first that is no text. -/
structure Lines where
  texts : List String
  /-- Whether every line is text. -/
  complete : Bool

namespace Lines

/-- Splits bytes behind each line feed; what follows the last one is a line if there is any. -/
def split : List UInt8 → List (List UInt8)
  | [] => []
  | b :: bytes =>
    if b = 0x0A then [] :: split bytes
    else match split bytes with
      | [] => [[b]]
      | line :: lines => (b :: line) :: lines

/-- A line without the carriage return at its end. -/
def withoutReturn (line : List UInt8) : List UInt8 :=
  if line.getLast? = some 0x0D then line.dropLast else line

def text? (line : List UInt8) : Option String := String.fromUTF8? ⟨(withoutReturn line).toArray⟩

/-- The lines of a file with the given content. -/
def ofBytes (bytes : ByteArray) : Lines :=
  let lines := (split bytes.toList).map text?
  ⟨(lines.takeWhile Option.isSome).filterMap id, lines.all Option.isSome⟩

end Lines

end GatewayCache.Replay
