import Minidump.Stream.Entries
import Minidump.Record.Memory

/-!
# Memory lists

- `MemoryList` — ranges that each know the place of their bytes;
- `Memory64List` — ranges whose bytes lie back to back from one offset on;
- `Scan.memoryList`, `Scan.memory64List`, `Scan.memoryInfo` — the three lists, in file
  order;
- `Image.memoryList`, `Image.memory64List`, `Image.memoryInfo` — the same on a file of
  which nothing has been read.
-/

namespace Minidump

/-- Address ranges that each know the place of their bytes. -/
structure MemoryList where
  ranges : List MemoryDescriptor
deriving DecidableEq

/-- Address ranges whose bytes lie back to back from `baseOffset` on. -/
structure Memory64List where
  baseOffset : UInt64
  ranges : List MemoryDescriptor64
deriving DecidableEq

namespace Scan

/-- The memory list. -/
def memoryList (image : Image) (location : Location) : Scan MemoryList := do
  let ranges ← countedList image MemoryDescriptor.layout location
  pure { ranges }

/-- The 64-bit memory list. -/
def memory64List (image : Image) (location : Location) : Scan Memory64List := do
  let header ← recordAt image Memory64Header.layout location.offset.toNat
  location.checkFits Memory64Header.layout.size header.count.toNat MemoryDescriptor64.layout.size
  let ranges ← nextMany image MemoryDescriptor64.layout header.count.toNat
  pure { baseOffset := header.baseOffset, ranges }

/-- The memory info list. Entries may be longer than what is decoded of them. -/
def memoryInfo (image : Image) (location : Location) : Scan (List MemoryInfo) := do
  let offset := location.offset.toNat
  let table ← recordAt image MemoryInfoHeader.layout offset
  let headerSize := table.headerSize.toNat
  let entrySize := table.entrySize.toNat
  if entrySize < MemoryInfo.layout.size then
    throw (.smallEntries .memoryInfo entrySize)
  location.checkFits headerSize table.count.toNat entrySize
  entries (recordAt image MemoryInfo.layout) entrySize table.count.toNat (offset + headerSize)

end Scan

namespace Image

/-- The memory list at a location. -/
def memoryList (image : Image) (location : Location) : Result MemoryList :=
  (Scan.memoryList image location).runFrom 0

/-- The 64-bit memory list at a location. -/
def memory64List (image : Image) (location : Location) : Result Memory64List :=
  (Scan.memory64List image location).runFrom 0

/-- The memory info list at a location. -/
def memoryInfo (image : Image) (location : Location) : Result (List MemoryInfo) :=
  (Scan.memoryInfo image location).runFrom 0

end Image

end Minidump
