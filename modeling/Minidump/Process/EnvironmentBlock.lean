import Minidump.Text.Utf16

/-!
# Environment blocks

The environment of a process is a block of wide text: `NAME=VALUE` entries, each ended by
a NUL unit, and an empty entry that closes the block.

- `EnvironmentVariable` — a name and a value;
- `EnvironmentVariable.ofEntry` — splits an entry at its first `=`, where a name may
  start with one;
- `EnvironmentBlock.entries` — the units of each entry before the closing one;
- `EnvironmentBlock.decode` — the variables of a block.
-/

namespace Minidump

/-- An environment variable. -/
structure EnvironmentVariable where
  name : String
  value : String
deriving DecidableEq

namespace EnvironmentVariable

/-- Splits a text before and after its first `=`. Without one, nothing comes after. -/
def splitAtEquals (text : List Char) : List Char × List Char :=
  (text.takeWhile (· ≠ '='), (text.dropWhile (· ≠ '=')).drop 1)

/-- The variable of an entry. A `=` at the start of an entry belongs to the name; an entry
without a further one has an empty value. -/
def ofEntry (entry : List Char) : EnvironmentVariable :=
  match entry with
  | '=' :: rest =>
    let (name, value) := splitAtEquals rest
    { name := String.ofList ('=' :: name), value := String.ofList value }
  | _ =>
    let (name, value) := splitAtEquals entry
    { name := String.ofList name, value := String.ofList value }

/-- A variable as it is shown. -/
def text (v : EnvironmentVariable) : String :=
  v.name ++ "=" ++ v.value

end EnvironmentVariable

namespace EnvironmentBlock

/-- Collects the entries of a block. `found` holds those already complete, last one first,
and `current` the units of the one under way, last one first. -/
def entriesOnto (found : List (List UInt16)) (current : List UInt16) :
    List UInt16 → List (List UInt16)
  | [] => found.reverse
  | u :: rest =>
    if u ≠ 0 then entriesOnto found (u :: current) rest
    else if current.isEmpty then found.reverse
    else entriesOnto (current.reverse :: found) [] rest

/-- The entries of a block up to the first empty one. An entry without a NUL after it is
left out. -/
def entries (block : List UInt16) : List (List UInt16) :=
  entriesOnto [] [] block

/-- The variable that the units of an entry stand for. -/
def variableOfUnits (entry : List UInt16) : Result EnvironmentVariable :=
  match Utf16.decodeUnits? entry with
  | some text => .ok (EnvironmentVariable.ofEntry text)
  | none => .error .loneSurrogate

/-- The variables of a block. -/
def decode (block : List UInt8) : Result (List EnvironmentVariable) :=
  (entries (Utf16.units block)).mapM variableOfUnits

end EnvironmentBlock

end Minidump
