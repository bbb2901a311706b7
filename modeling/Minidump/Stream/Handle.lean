import Minidump.Stream.Entries
import Minidump.Stream.Text
import Minidump.Record.Handle

/-!
# Handles

- `Handle` — a handle the process had opened, with the names of its type and object;
- `Scan.handles` — the handle list, in file order;
- `Image.handles` — the same on a file of which nothing has been read.
-/

namespace Minidump

/-- A handle that the process had opened. -/
structure Handle where
  handle : UInt64
  typeName : Option String
  objectName : Option String
  attributes : UInt32
  grantedAccess : UInt32
  handleCount : UInt32
  pointerCount : UInt32
deriving DecidableEq

namespace Scan

/-- The handle whose descriptor is at an offset. -/
def handleAt (image : Image) (offset : Nat) : Scan Handle := do
  let entry ← recordAt image HandleDescriptor.layout offset
  let typeName ← optionalTextAt image entry.typeNameOffset
  let objectName ← optionalTextAt image entry.objectNameOffset
  pure {
    handle := entry.handle
    typeName
    objectName
    attributes := entry.attributes
    grantedAccess := entry.grantedAccess
    handleCount := entry.handleCount
    pointerCount := entry.pointerCount
  }

/-- The handle list. Descriptors may be longer than what is decoded of them. -/
def handles (image : Image) (location : Location) : Scan (List Handle) := do
  let offset := location.offset.toNat
  let table ← recordAt image HandleTableHeader.layout offset
  let headerSize := table.headerSize.toNat
  let entrySize := table.entrySize.toNat
  if entrySize < HandleDescriptor.layout.size then
    throw (.smallEntries .handle entrySize)
  location.checkFits headerSize table.count.toNat entrySize
  entries (handleAt image) entrySize table.count.toNat (offset + headerSize)

end Scan

/-- The handle list at a location, on a file of which nothing has been read. -/
def Image.handles (image : Image) (location : Location) : Result (List Handle) :=
  (Scan.handles image location).runFrom 0

end Minidump
