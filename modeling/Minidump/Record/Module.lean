import Minidump.Record.Directory

/-!
# Module records

- `FileVersion` — the fixed part of a file's version resource;
- `ModuleEntry` — a loaded module; its name and debug records lie elsewhere;
- `UnloadedModuleEntry` — a module that was loaded at some time.
-/

namespace Minidump

/-- The fixed part of a file's version resource. -/
structure FileVersion where
  signature : UInt32 := 0
  structureVersion : UInt32 := 0
  fileVersionHigh : UInt32 := 0
  fileVersionLow : UInt32 := 0
  productVersionHigh : UInt32 := 0
  productVersionLow : UInt32 := 0
  flagsMask : UInt32 := 0
  flags : UInt32 := 0
  system : UInt32 := 0
  kind : UInt32 := 0
  subkind : UInt32 := 0
  dateHigh : UInt32 := 0
  dateLow : UInt32 := 0
deriving DecidableEq

/-- The layout of a file version: 52 bytes. -/
def FileVersion.layout : Layout FileVersion :=
  Layout.record FileVersion.mk
    |>.field (·.signature) .u32
    |>.field (·.structureVersion) .u32
    |>.field (·.fileVersionHigh) .u32
    |>.field (·.fileVersionLow) .u32
    |>.field (·.productVersionHigh) .u32
    |>.field (·.productVersionLow) .u32
    |>.field (·.flagsMask) .u32
    |>.field (·.flags) .u32
    |>.field (·.system) .u32
    |>.field (·.kind) .u32
    |>.field (·.subkind) .u32
    |>.field (·.dateHigh) .u32
    |>.field (·.dateLow) .u32

/-- An entry of the module list. -/
structure ModuleEntry where
  base : UInt64
  imageSize : UInt32
  checksum : UInt32
  timestamp : UInt32
  nameOffset : UInt32
  version : FileVersion
  cvRecord : Location
  miscRecord : Location
  reserved0 : UInt64
  reserved1 : UInt64
deriving DecidableEq

/-- The layout of a module entry: 108 bytes. -/
def ModuleEntry.layout : Layout ModuleEntry :=
  Layout.record ModuleEntry.mk
    |>.field (·.base) .u64
    |>.field (·.imageSize) .u32
    |>.field (·.checksum) .u32
    |>.field (·.timestamp) .u32
    |>.field (·.nameOffset) .u32
    |>.field (·.version) FileVersion.layout
    |>.field (·.cvRecord) Location.layout
    |>.field (·.miscRecord) Location.layout
    |>.field (·.reserved0) .u64
    |>.field (·.reserved1) .u64

/-- An entry of the unloaded module list. -/
structure UnloadedModuleEntry where
  base : UInt64
  imageSize : UInt32
  checksum : UInt32
  timestamp : UInt32
  nameOffset : UInt32
deriving DecidableEq

/-- The layout of an unloaded module entry: 24 bytes. -/
def UnloadedModuleEntry.layout : Layout UnloadedModuleEntry :=
  Layout.record UnloadedModuleEntry.mk
    |>.field (·.base) .u64
    |>.field (·.imageSize) .u32
    |>.field (·.checksum) .u32
    |>.field (·.timestamp) .u32
    |>.field (·.nameOffset) .u32

end Minidump
