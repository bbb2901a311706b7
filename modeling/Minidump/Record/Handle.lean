import Minidump.Layout

/-!
# Handle records

- `HandleTableHeader` — the header of the handle stream, which declares its own
  size and that of a descriptor;
- `HandleDescriptor` — an open handle; the names of its type and object lie
  elsewhere.
-/

namespace Minidump

/-- The header of the handle stream. -/
structure HandleTableHeader where
  headerSize : UInt32
  entrySize : UInt32
  count : UInt32
  reserved : UInt32
deriving DecidableEq

/-- The layout of the handle stream header: 16 bytes. -/
def HandleTableHeader.layout : Layout HandleTableHeader :=
  Layout.record HandleTableHeader.mk
    |>.field (·.headerSize) .u32
    |>.field (·.entrySize) .u32
    |>.field (·.count) .u32
    |>.field (·.reserved) .u32

/-- An open handle as stored. A name offset of zero means that there is no name. -/
structure HandleDescriptor where
  handle : UInt64
  typeNameOffset : UInt32
  objectNameOffset : UInt32
  attributes : UInt32
  grantedAccess : UInt32
  handleCount : UInt32
  pointerCount : UInt32
deriving DecidableEq

/-- The layout of a handle descriptor: 32 bytes. -/
def HandleDescriptor.layout : Layout HandleDescriptor :=
  Layout.record HandleDescriptor.mk
    |>.field (·.handle) .u64
    |>.field (·.typeNameOffset) .u32
    |>.field (·.objectNameOffset) .u32
    |>.field (·.attributes) .u32
    |>.field (·.grantedAccess) .u32
    |>.field (·.handleCount) .u32
    |>.field (·.pointerCount) .u32

end Minidump
