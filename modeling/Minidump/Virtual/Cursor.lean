import Minidump.Address.Space
import Minidump.Scan

/-!
# Reading the memory of the process

The memory of the process is read through a cursor over its address space. A read never
leaves the region that the cursor is in, even if another region starts where it ends.

- `ProcessMemory` — an address space and the file that its bytes are in;
- `VirtualCursor` — an address and its region, which is not set before the first seek, and
  the position in the file behind it;
- `Access` — a computation with a cursor that can fail; a failure keeps the cursor as it
  is by then;
- `Access.ofScan`, `Access.toScan` — a read of the file behind the cursor, and an access
  with a new cursor as a step of a scan;
- `ProcessMemory.seek`, `ProcessMemory.read`, `ProcessMemory.readExact` — the three
  steps that everything else is made of;
- `ProcessMemory.readAt` — a read at an address, with a cursor of its own.
-/

namespace Minidump

/-- An address space and the file that its bytes are in. -/
structure ProcessMemory where
  space : AddressSpace
  image : Image

/-- A place in the memory of the process, and the position in the file that its bytes are
read through. -/
structure VirtualCursor where
  position : Nat
  region : Option Region
  filePosition : Nat
deriving DecidableEq

namespace VirtualCursor

/-- A cursor that has not been placed yet, over a file at a position. -/
def fresh (filePosition : Nat) : VirtualCursor where
  position := 0
  region := none
  filePosition

/-- A cursor that has not been placed yet, over a file of which nothing has been read. -/
def unplaced : VirtualCursor := fresh 0

/-- The end of the region that the cursor is in; its position if it has not been placed
yet. -/
def regionEnd (cursor : VirtualCursor) : Nat :=
  match cursor.region with
  | some region => region.range.stop
  | none => cursor.position

/-- The number of bytes up to the end of the region. -/
def remaining (cursor : VirtualCursor) : Nat :=
  cursor.regionEnd - cursor.position

end VirtualCursor

/-- A computation with a cursor that can fail and then still has a cursor. -/
abbrev Access (α : Type) := ExceptT Error (StateM VirtualCursor) α

/-- Reads the file behind the cursor. -/
def Access.ofScan {α : Type} (scan : Scan α) : Access α :=
  ExceptT.mk fun cursor =>
    let (result, filePosition) := scan.run.run cursor.filePosition
    (result, { cursor with filePosition })

/-- Runs an access with a new cursor over the file that is being scanned. -/
def Access.toScan {α : Type} (access : Access α) : Scan α :=
  ExceptT.mk fun position =>
    let (result, cursor) := access.run.run (VirtualCursor.fresh position)
    (result, cursor.filePosition)

namespace ProcessMemory

/-- Moves the cursor to an address, if a region contains it. -/
def seek (memory : ProcessMemory) (address : Nat) : Access Unit :=
  match memory.space.region? address with
  | some region =>
    modify fun cursor => { cursor with position := address, region := some region }
  | none => throw (.unmapped address)

/-- Reads up to `length` bytes, fewer if the region ends before, none at its end. -/
def read (memory : ProcessMemory) (length : Nat) : Access (List UInt8) := do
  let cursor ← get
  match cursor.region with
  | none => throw (.unmapped cursor.position)
  | some region =>
    let length := min length cursor.remaining
    if length = 0 then
      pure []
    else
      match checkedAdd? region.offset (cursor.position - region.range.start) with
      | none => throw (.overflow .regionOffset)
      | some offset =>
        let bs ← Access.ofScan (Scan.bytesAt memory.image offset length)
        modify fun cursor => { cursor with position := cursor.position + length }
        pure bs

/-- Reads exactly `length` bytes. -/
def readExact (memory : ProcessMemory) (length : Nat) : Access (List UInt8) := do
  let cursor ← get
  let bs ← memory.read length
  if bs.length = length then
    pure bs
  else
    throw (.shortRead cursor.position length bs.length)

/-- Reads a byte. -/
def readByte (memory : ProcessMemory) : Access UInt8 := do
  let bs ← memory.readExact Layout.u8.size
  pure (Layout.u8.decode bs)

/-- Reads a 16-bit number. -/
def readUInt16 (memory : ProcessMemory) : Access UInt16 := do
  let bs ← memory.readExact Layout.u16.size
  pure (Layout.u16.decode bs)

/-- Reads a pointer, as wide as the addresses of the process. -/
def readPointer (memory : ProcessMemory) : Access Nat := do
  let bs ← memory.readExact memory.space.bitness.pointerSize
  pure (LittleEndian.value bs)

/-- Reads the pointer at an address. -/
def readPointerAt (memory : ProcessMemory) (address : Nat) : Access Nat := do
  memory.seek address
  memory.readPointer

/-- Reads up to `length` bytes at an address, with a cursor of its own. -/
def readAt (memory : ProcessMemory) (address length : Nat) : Scan (List UInt8) :=
  Access.toScan do
    memory.seek address
    memory.read length

end ProcessMemory

end Minidump
