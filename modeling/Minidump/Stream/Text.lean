import Minidump.Scan
import Minidump.Text.Utf8

/-!
# Texts and blocks of bytes

Records refer to texts and byte blocks by their offset or location in the file.

- `Scan.optionalTextAt` — the text at an offset, where offset zero means that there is
  none;
- `Scan.block` — the bytes of a location;
- `Scan.narrowComment`, `Scan.wideComment` — the two comment streams, which end at their
  first NUL;
- `Image.narrowComment`, `Image.wideComment` — the same on a file of which nothing has
  been read.
-/

namespace Minidump

namespace Scan

/-- The text at an offset, where offset zero means that there is none. -/
def optionalTextAt (image : Image) (offset : UInt32) : Scan (Option String) :=
  if offset = 0 then pure none else some <$> textAt image offset.toNat

/-- The bytes of a location. An empty location is not looked at, wherever it is. -/
def block (image : Image) (location : Location) : Scan (List UInt8) :=
  if location.size = 0 then pure []
  else bytesAt image location.offset.toNat location.size.toNat

/-- The narrow comment at a location, up to its first NUL. -/
def narrowComment (image : Image) (location : Location) : Scan String := do
  let bs ← block image location
  pure (Utf8.decodeRepaired (bs.takeWhile (· ≠ 0)))

/-- The wide comment at a location, up to its first NUL unit. -/
def wideComment (image : Image) (location : Location) : Scan String := do
  let bs ← block image location
  Utf16.textOfUnits ((Utf16.units bs).takeWhile (· ≠ 0))

end Scan

namespace Image

/-- The narrow comment at a location. -/
def narrowComment (image : Image) (location : Location) : Result String :=
  (Scan.narrowComment image location).runFrom 0

/-- The wide comment at a location. -/
def wideComment (image : Image) (location : Location) : Result String :=
  (Scan.wideComment image location).runFrom 0

end Image

end Minidump
