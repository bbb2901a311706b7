import Minidump.Layout

/-!
# Header and stream directory

A dump starts with a header. It names the place of the stream directory, a list of
entries that give each stream's type and location in the file.

- `Location` — a byte range of the file;
- `Header` — the first 32 bytes of the file;
- `DirectoryEntry` — a stream's type code and location, as stored.
-/

namespace Minidump

/-- A byte range of the file. -/
structure Location where
  size : UInt32
  offset : UInt32
deriving DecidableEq

/-- The layout of a location: 8 bytes. -/
def Location.layout : Layout Location :=
  Layout.record Location.mk
    |>.field (·.size) .u32
    |>.field (·.offset) .u32

/-- The header of a dump. -/
structure Header where
  signature : UInt32
  version : UInt16
  implementationVersion : UInt16
  streamCount : UInt32
  directoryOffset : UInt32
  checksum : UInt32
  timestamp : UInt32
  flags : UInt64
deriving DecidableEq

/-- The layout of the header: 32 bytes. -/
def Header.layout : Layout Header :=
  Layout.record Header.mk
    |>.field (·.signature) .u32
    |>.field (·.version) .u16
    |>.field (·.implementationVersion) .u16
    |>.field (·.streamCount) .u32
    |>.field (·.directoryOffset) .u32
    |>.field (·.checksum) .u32
    |>.field (·.timestamp) .u32
    |>.field (·.flags) .u64

/-- The signature of every dump, the letters `MDMP`. -/
def Header.expectedSignature : UInt32 := 0x504d444d

/-- An entry of the stream directory as stored; its type code may be unknown. -/
structure DirectoryEntry where
  code : UInt32
  location : Location
deriving DecidableEq

/-- The layout of a directory entry: 12 bytes. -/
def DirectoryEntry.layout : Layout DirectoryEntry :=
  Layout.record DirectoryEntry.mk
    |>.field (·.code) .u32
    |>.field (·.location) Location.layout

end Minidump
