import Minidump.Image
import Minidump.Text.Utf16

/-!
# Reading a file through a position

Everything that reads a file shares one position in it. A read starts at the position or
moves it first, and leaves it past what was read. A scan that fails still has a position,
and the next step goes on from it.

- `Scan` — a computation with a position in the file that can fail;
- `Scan.attempt` — a scan whose failure is a result, so that what follows still runs;
- `Scan.peek`, `Scan.next` — the record at the position, without and with moving past
  it;
- `Scan.nextMany` — a number of records of one kind, one after the other;
- `Scan.recordAt`, `Scan.bytesAt`, `Scan.textAt` — the same from another position on.

A read that the file is too short for has used the file up: it leaves the position at
the end of the file.
-/

namespace Minidump

/-- A computation with a position in a file that can fail and then still has a
position. -/
abbrev Scan (α : Type) := ExceptT Error (StateM Nat) α

namespace Scan

variable {α : Type}

/-- Runs a scan from a position on and forgets where it ended. -/
def runFrom (scan : Scan α) (position : Nat) : Result α :=
  (scan.run.run position).1

/-- Runs a scan and hands over its result, be it a failure. -/
def attempt (scan : Scan α) : Scan (Result α) :=
  ExceptT.lift scan.run

/-- Looks at the record at the position. -/
def peek (image : Image) (layout : Layout α) : Scan α := do
  let position ← get
  match image.window? position layout.size with
  | some bs => pure (layout.decode bs)
  | none =>
    set image.size
    throw (.truncated position layout.size)

/-- Reads the record at the position. -/
def next (image : Image) (layout : Layout α) : Scan α := do
  let a ← peek image layout
  modify (· + layout.size)
  pure a

/-- Reads a number of records and puts them behind those already read. -/
def nextManyOnto (image : Image) (layout : Layout α) (reversed : List α) : Nat → Scan (List α)
  | 0 => pure reversed.reverse
  | count + 1 => do
    let a ← next image layout
    nextManyOnto image layout (a :: reversed) count

/-- Reads a number of records, one after the other. -/
def nextMany (image : Image) (layout : Layout α) (count : Nat) : Scan (List α) :=
  nextManyOnto image layout [] count

/-- Reads the record at an offset. -/
def recordAt (image : Image) (layout : Layout α) (offset : Nat) : Scan α := do
  set offset
  next image layout

/-- Reads a number of bytes at an offset. -/
def bytesAt (image : Image) (offset length : Nat) : Scan (List UInt8) :=
  match image.readBytes offset length with
  | .ok bs => do
    set (offset + length)
    pure bs
  | .error cause => do
    set (max offset image.size)
    throw cause

/-- Reads a text at an offset: the number of its bytes, then its UTF-16 units. -/
def textAt (image : Image) (offset : Nat) : Scan String := do
  let length ← recordAt image .u32 offset
  let bs ← bytesAt image (offset + Layout.u32.size) length.toNat
  Utf16.decode bs

end Scan

end Minidump
