import Minidump.Record.Directory

/-!
# Memory records

- `MemoryDescriptor` — an address range and the place of its bytes in the file;
- `MemoryDescriptor64`, `Memory64Header` — address ranges whose bytes lie back to
  back from one base offset on;
- `MemoryInfo`, `MemoryInfoHeader` — state and protection of address ranges.
-/

namespace Minidump

/-- An address range and the place of its bytes. -/
structure MemoryDescriptor where
  start : UInt64
  location : Location
deriving DecidableEq

/-- The layout of a memory descriptor: 16 bytes. -/
def MemoryDescriptor.layout : Layout MemoryDescriptor :=
  Layout.record MemoryDescriptor.mk
    |>.field (·.start) .u64
    |>.field (·.location) Location.layout

/-- The header of the 64-bit memory list. -/
structure Memory64Header where
  count : UInt64
  baseOffset : UInt64
deriving DecidableEq

/-- The layout of the 64-bit memory list header: 16 bytes. -/
def Memory64Header.layout : Layout Memory64Header :=
  Layout.record Memory64Header.mk
    |>.field (·.count) .u64
    |>.field (·.baseOffset) .u64

/-- An address range whose bytes follow those of the range before it. -/
structure MemoryDescriptor64 where
  start : UInt64
  size : UInt64
deriving DecidableEq

/-- The layout of a 64-bit memory descriptor: 16 bytes. -/
def MemoryDescriptor64.layout : Layout MemoryDescriptor64 :=
  Layout.record MemoryDescriptor64.mk
    |>.field (·.start) .u64
    |>.field (·.size) .u64

/-- The header of the memory info list. -/
structure MemoryInfoHeader where
  headerSize : UInt32
  entrySize : UInt32
  count : UInt64
deriving DecidableEq

/-- The layout of the memory info list header: 16 bytes. -/
def MemoryInfoHeader.layout : Layout MemoryInfoHeader :=
  Layout.record MemoryInfoHeader.mk
    |>.field (·.headerSize) .u32
    |>.field (·.entrySize) .u32
    |>.field (·.count) .u64

/-- State and protection of an address range. -/
structure MemoryInfo where
  baseAddress : UInt64
  allocationBase : UInt64
  allocationProtect : UInt32
  alignment1 : UInt32
  regionSize : UInt64
  state : UInt32
  protect : UInt32
  kind : UInt32
  alignment2 : UInt32
deriving DecidableEq

/-- The layout of a memory info entry: 48 bytes. -/
def MemoryInfo.layout : Layout MemoryInfo :=
  Layout.record MemoryInfo.mk
    |>.field (·.baseAddress) .u64
    |>.field (·.allocationBase) .u64
    |>.field (·.allocationProtect) .u32
    |>.field (·.alignment1) .u32
    |>.field (·.regionSize) .u64
    |>.field (·.state) .u32
    |>.field (·.protect) .u32
    |>.field (·.kind) .u32
    |>.field (·.alignment2) .u32

end Minidump
