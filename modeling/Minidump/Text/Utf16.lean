import Minidump.Error
import Minidump.Text.Units

/-!
# Wide text

- `decode` — the text of a list of bytes: an odd number of bytes is refused before a
  surrogate without its partner is.
-/

namespace Minidump

namespace Utf16

/-- The text that a list of units stands for. -/
def textOfUnits (us : List UInt16) : Result String :=
  match decodeUnits? us with
  | some cs => .ok (String.ofList cs)
  | none => .error .loneSurrogate

/-- The text that a list of bytes stands for. -/
def decode (bs : List UInt8) : Result String :=
  if bs.length % 2 ≠ 0 then .error (.oddLength bs.length) else textOfUnits (units bs)

end Utf16

end Minidump
