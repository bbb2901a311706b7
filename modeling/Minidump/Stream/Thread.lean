import Minidump.Stream.Entries
import Minidump.Architecture
import Minidump.Record.Thread

/-!
# Threads

- `Thread` — a thread and, once the architecture is known, its registers;
- `ThreadEx` — a thread with the backing store of its register stack;
- `Scan.threads`, `Scan.threadsEx`, `Scan.threadInfo` — the three thread lists, in file
  order;
- `Image.threads`, `Image.threadsEx`, `Image.threadInfo` — the same on a file of which
  nothing has been read.
-/

namespace Minidump

/-- A thread that was running when the dump was written. -/
structure Thread where
  id : UInt32
  suspendCount : UInt32
  priorityClass : UInt32
  priority : UInt32
  teb : UInt64
  stack : MemoryDescriptor
  contextLocation : Location
  context : Option ThreadContext
deriving DecidableEq

/-- The thread of a list entry. Its registers are not decoded yet. -/
def Thread.ofEntry (entry : ThreadEntry) : Thread where
  id := entry.id
  suspendCount := entry.suspendCount
  priorityClass := entry.priorityClass
  priority := entry.priority
  teb := entry.teb
  stack := entry.stack
  contextLocation := entry.context
  context := none

/-- A thread with the backing store of its register stack. -/
structure ThreadEx where
  thread : Thread
  backingStore : MemoryDescriptor
deriving DecidableEq

/-- The thread of an extended list entry. -/
def ThreadEx.ofEntry (entry : ThreadExEntry) : ThreadEx where
  thread := Thread.ofEntry entry.thread
  backingStore := entry.backingStore

namespace Scan

/-- The thread list. -/
def threads (image : Image) (location : Location) : Scan (List Thread) := do
  let entries ← countedList image ThreadEntry.layout location
  pure (entries.map Thread.ofEntry)

/-- The extended thread list. -/
def threadsEx (image : Image) (location : Location) : Scan (List ThreadEx) := do
  let entries ← countedList image ThreadExEntry.layout location
  pure (entries.map ThreadEx.ofEntry)

/-- The thread info list. Entries may be longer than what is decoded of them. -/
def threadInfo (image : Image) (location : Location) : Scan (List ThreadInfo) := do
  let offset := location.offset.toNat
  let table ← recordAt image TableHeader.layout offset
  let headerSize := table.headerSize.toNat
  let entrySize := table.entrySize.toNat
  if entrySize < ThreadInfo.layout.size then
    throw (.smallEntries .threadInfo entrySize)
  if headerSize < TableHeader.layout.size then
    throw (.smallThreadInfoHeader headerSize)
  location.checkFits headerSize table.count.toNat entrySize
  entries (recordAt image ThreadInfo.layout) entrySize table.count.toNat (offset + headerSize)

end Scan

namespace Image

/-- The thread list at a location. -/
def threads (image : Image) (location : Location) : Result (List Thread) :=
  (Scan.threads image location).runFrom 0

/-- The extended thread list at a location. -/
def threadsEx (image : Image) (location : Location) : Result (List ThreadEx) :=
  (Scan.threadsEx image location).runFrom 0

/-- The thread info list at a location. -/
def threadInfo (image : Image) (location : Location) : Result (List ThreadInfo) :=
  (Scan.threadInfo image location).runFrom 0

end Image

end Minidump
