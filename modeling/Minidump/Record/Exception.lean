import Minidump.Record.Directory

/-!
# Exception records

- `ExceptionRecord` — what happened, and up to fifteen parameters of it;
- `ExceptionStream` — the thread it happened in and the place of its context.
-/

namespace Minidump

/-- What happened. -/
structure ExceptionRecord where
  code : UInt32
  flags : UInt32
  nested : UInt64
  address : UInt64
  parameterCount : UInt32
  alignment : UInt32
  information : Vector UInt64 15
deriving DecidableEq

/-- The layout of an exception record: 152 bytes. -/
def ExceptionRecord.layout : Layout ExceptionRecord :=
  Layout.record ExceptionRecord.mk
    |>.field (·.code) .u32
    |>.field (·.flags) .u32
    |>.field (·.nested) .u64
    |>.field (·.address) .u64
    |>.field (·.parameterCount) .u32
    |>.field (·.alignment) .u32
    |>.field (·.information) (.vector 15 .u64)

/-- The exception stream. -/
structure ExceptionStream where
  threadId : UInt32
  alignment : UInt32
  record : ExceptionRecord
  context : Location
deriving DecidableEq

/-- The layout of the exception stream: 168 bytes. -/
def ExceptionStream.layout : Layout ExceptionStream :=
  Layout.record ExceptionStream.mk
    |>.field (·.threadId) .u32
    |>.field (·.alignment) .u32
    |>.field (·.record) ExceptionRecord.layout
    |>.field (·.context) Location.layout

end Minidump
