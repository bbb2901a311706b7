import Minidump.Scan
import Minidump.Record.Lists

/-!
# Lists of entries

A stream that holds a list starts with a header that says how many entries follow.
Counts and sizes come from the file, so a list is measured against the size of its
stream before any of its entries is read.

- `Location.checkFits` — header and entries together are no longer than the stream;
- `Scan.countedList` — a count and then entries of a known size, one after the other;
- `Scan.entries` — entries that lie a declared distance apart.
-/

namespace Minidump

/-- Checks that a header and a number of entries fit into a stream. -/
def Location.checkFits (location : Location) (header count entry : Nat) : Result Unit :=
  let needed := header + count * entry
  if addressLimit ≤ needed then .error (.overflow .streamSize)
  else if location.size.toNat < needed then .error (.streamTooShort location needed)
  else .ok ()

namespace Scan

variable {α : Type}

/-- The entries of a list that starts with their count. -/
def countedList (image : Image) (entry : Layout α) (location : Location) : Scan (List α) := do
  let header ← recordAt image CountHeader.layout location.offset.toNat
  location.checkFits CountHeader.layout.size header.count.toNat entry.size
  nextMany image entry header.count.toNat

/-- Decodes entries that lie `stride` bytes apart and puts them behind those already
decoded. -/
def entriesOnto (entryAt : Nat → Scan α) (stride : Nat) (reversed : List α) :
    Nat → Nat → Scan (List α)
  | 0, _ => pure reversed.reverse
  | count + 1, offset => do
    let a ← entryAt offset
    entriesOnto entryAt stride (a :: reversed) count (offset + stride)

/-- Decodes `count` entries that lie `stride` bytes apart, the first one at `offset`. The
first entry that cannot be decoded ends the list with its cause. -/
def entries (entryAt : Nat → Scan α) (stride count offset : Nat) : Scan (List α) :=
  entriesOnto entryAt stride [] count offset

end Scan

end Minidump
