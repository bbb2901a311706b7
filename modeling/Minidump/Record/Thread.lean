import Minidump.Record.Memory

/-!
# Thread records

- `ThreadEntry` — an entry of the thread list;
- `ThreadExEntry` — the same with a backing store;
- `ThreadInfo` — times and start address of a thread.
-/

namespace Minidump

/-- An entry of the thread list. -/
structure ThreadEntry where
  id : UInt32
  suspendCount : UInt32
  priorityClass : UInt32
  priority : UInt32
  teb : UInt64
  stack : MemoryDescriptor
  context : Location
deriving DecidableEq

/-- The layout of a thread entry: 48 bytes. -/
def ThreadEntry.layout : Layout ThreadEntry :=
  Layout.record ThreadEntry.mk
    |>.field (·.id) .u32
    |>.field (·.suspendCount) .u32
    |>.field (·.priorityClass) .u32
    |>.field (·.priority) .u32
    |>.field (·.teb) .u64
    |>.field (·.stack) MemoryDescriptor.layout
    |>.field (·.context) Location.layout

/-- An entry of the extended thread list. -/
structure ThreadExEntry where
  thread : ThreadEntry
  backingStore : MemoryDescriptor
deriving DecidableEq

/-- The layout of an extended thread entry: 64 bytes. -/
def ThreadExEntry.layout : Layout ThreadExEntry :=
  Layout.record ThreadExEntry.mk
    |>.field (·.thread) ThreadEntry.layout
    |>.field (·.backingStore) MemoryDescriptor.layout

/-- What the thread info list knows about a thread. -/
structure ThreadInfo where
  threadId : UInt32
  dumpFlags : UInt32
  dumpError : UInt32
  exitStatus : UInt32
  createTime : UInt64
  exitTime : UInt64
  kernelTime : UInt64
  userTime : UInt64
  startAddress : UInt64
  affinity : UInt64
deriving DecidableEq

/-- The layout of a thread info entry: 64 bytes. -/
def ThreadInfo.layout : Layout ThreadInfo :=
  Layout.record ThreadInfo.mk
    |>.field (·.threadId) .u32
    |>.field (·.dumpFlags) .u32
    |>.field (·.dumpError) .u32
    |>.field (·.exitStatus) .u32
    |>.field (·.createTime) .u64
    |>.field (·.exitTime) .u64
    |>.field (·.kernelTime) .u64
    |>.field (·.userTime) .u64
    |>.field (·.startAddress) .u64
    |>.field (·.affinity) .u64

end Minidump
