import Minidump.Record.ContextX86
import Minidump.Record.ContextX64
import Minidump.Scan

/-!
# Architectures and their register contexts

- `Architecture` — the architectures whose contexts are decoded;
- `Architecture.ofProcessor?` — the one that a processor code stands for;
- `ThreadContext` — the registers of a thread;
- `Scan.context` — the context at a location, which has to be long enough for it.
-/

namespace Minidump

/-- The architectures whose register contexts are decoded. -/
inductive Architecture where
  | x86
  | x64
deriving DecidableEq

/-- The architecture of a processor code. A 32-bit process on a 64-bit system has a code
of its own and 32-bit contexts. -/
def Architecture.ofProcessor? (code : UInt16) : Option Architecture :=
  if code = 0 ∨ code = 10 then some .x86
  else if code = 9 then some .x64
  else none

/-- The registers of a thread. -/
inductive ThreadContext where
  | x86 (context : ContextX86)
  | x64 (context : ContextX64)
deriving DecidableEq

namespace Scan

/-- The record at a location that has to be at least as long as the record. -/
def contextRecord {α : Type} (image : Image) (layout : Layout α) (location : Location) :
    Scan α :=
  if location.size.toNat < layout.size then
    throw (.smallContext location.size.toNat layout.size)
  else recordAt image layout location.offset.toNat

/-- The register context at a location. -/
def context (image : Image) (architecture : Architecture) (location : Location) :
    Scan ThreadContext :=
  match architecture with
  | .x86 => .x86 <$> contextRecord image ContextX86.layout location
  | .x64 => .x64 <$> contextRecord image ContextX64.layout location

end Scan

end Minidump
