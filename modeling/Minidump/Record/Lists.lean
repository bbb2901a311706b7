import Minidump.Layout

/-!
# List headers

Two kinds of headers stand in front of the entries of a list.

- `CountHeader` — a count alone; entries of a known size follow at once;
- `TableHeader` — the header declares its own size and that of an entry, so that
  either may be longer than what is understood here.
-/

namespace Minidump

/-- The header of the thread, extended thread, module and memory lists. -/
structure CountHeader where
  count : UInt32
deriving DecidableEq

/-- The layout of a count header: 4 bytes. -/
def CountHeader.layout : Layout CountHeader :=
  Layout.record CountHeader.mk
    |>.field (·.count) .u32

/-- The header of the thread info and unloaded module lists. -/
structure TableHeader where
  headerSize : UInt32
  entrySize : UInt32
  count : UInt32
deriving DecidableEq

/-- The layout of a table header: 12 bytes. -/
def TableHeader.layout : Layout TableHeader :=
  Layout.record TableHeader.mk
    |>.field (·.headerSize) .u32
    |>.field (·.entrySize) .u32
    |>.field (·.count) .u32

end Minidump
