import GatewayCache.Codec.Basic
import GatewayCache.Json.Reader

/-! Reading values from text. -/
namespace GatewayCache.Codec

/--
Reads a value from a text that is one JSON document. A document that is not readable throughout may
still hold a value, but if it does not, that is what is wrong with it.
-/
def decodeText {α : Type} (codec : Codec α) (text : String) : Except DecodeError α :=
  match Json.parse? text with
  | some j => (codec.decode j).mapError fun e => if j.isReadable then e else .malformed
  | none => .error .malformed

end GatewayCache.Codec
