import Minidump.Address.Space

/-!
# Where the fields of process structures are

The process describes itself in a chain of structures: the thread environment block
(TEB) points to the process environment block (PEB), and that to the process parameters.
Their fields have other offsets in a 32-bit process than in a 64-bit one.

- `FieldOffsets` — the offsets that are needed;
- `FieldOffsets.of` — those of a process with addresses of a given width.
-/

namespace Minidump

/-- The offsets of fields in the structures that describe a process. -/
structure FieldOffsets where
  /-- In the TEB: the pointer to the PEB. -/
  peb : Nat
  /-- In the PEB. -/
  beingDebugged : Nat
  /-- In the PEB. -/
  imageBaseAddress : Nat
  /-- In the PEB: the pointer to the process parameters. -/
  processParameters : Nat
  /-- In the process parameters, like all that follow up to the window title. -/
  standardInput : Nat
  standardOutput : Nat
  standardError : Nat
  currentDirectory : Nat
  dllPath : Nat
  imagePath : Nat
  commandLine : Nat
  environment : Nat
  windowTitle : Nat
  /-- In a counted string: the pointer to its characters. -/
  stringBuffer : Nat
deriving DecidableEq

namespace FieldOffsets

/-- The offsets in a 32-bit process. -/
def bits32 : FieldOffsets where
  peb := 0x30
  beingDebugged := 0x2
  imageBaseAddress := 0x8
  processParameters := 0x10
  standardInput := 0x18
  standardOutput := 0x1c
  standardError := 0x20
  currentDirectory := 0x24
  dllPath := 0x30
  imagePath := 0x38
  commandLine := 0x40
  environment := 0x48
  windowTitle := 0x70
  stringBuffer := 0x4

/-- The offsets in a 64-bit process. -/
def bits64 : FieldOffsets where
  peb := 0x60
  beingDebugged := 0x2
  imageBaseAddress := 0x10
  processParameters := 0x20
  standardInput := 0x20
  standardOutput := 0x28
  standardError := 0x30
  currentDirectory := 0x38
  dllPath := 0x50
  imagePath := 0x60
  commandLine := 0x70
  environment := 0x80
  windowTitle := 0xb0
  stringBuffer := 0x8

/-- The offsets in a process with addresses of a given width. -/
def of : Bitness → FieldOffsets
  | .bits32 => bits32
  | .bits64 => bits64

end FieldOffsets

end Minidump
