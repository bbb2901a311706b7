import Minidump.Error

/-!
# The bytes of a dump file

A dump is an immutable list of bytes, and everything is read at an absolute offset.
Nothing that is read depends on what was read before.

- `Image` — the bytes of a file;
- `Image.window?` — a byte range, if all of it is in the file;
- `Image.read` — a record at an offset;
- `Image.readBytes` — a byte range at an offset, where nothing at all can be read
  anywhere.
-/

namespace Minidump

/-- The bytes of a file. -/
structure Image where
  bytes : ByteArray

namespace Image

/-- The number of bytes in a file. -/
def size (image : Image) : Nat :=
  image.bytes.size

/-- The bytes from `offset` up to `offset + length`, if all of them are in the file. -/
def window? (image : Image) (offset length : Nat) : Option (List UInt8) :=
  if offset + length ≤ image.size then
    some (image.bytes.extract offset (offset + length)).data.toList
  else none

/-- The record that a layout describes, at an offset. -/
def read {α : Type} (image : Image) (layout : Layout α) (offset : Nat) : Result α :=
  match image.window? offset layout.size with
  | some bs => .ok (layout.decode bs)
  | none => .error (.truncated offset layout.size)

/-- A number of bytes at an offset. No bytes can be read at any offset, even beyond the
end of the file. -/
def readBytes (image : Image) (offset length : Nat) : Result (List UInt8) :=
  if length = 0 then .ok []
  else match image.window? offset length with
    | some bs => .ok bs
    | none => .error (.truncated offset length)

end Image

end Minidump
