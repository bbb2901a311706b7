/-!
# Address ranges

Virtual memory is described by half-open ranges of addresses. Addresses are plain
numbers; the limit of 64 bits is checked where a range is made.

- `AddressRange` — from a first address up to, but not including, a last one;
- `AddressRange.Contains`, `AddressRange.length` — its addresses and their number;
- `addressLimit`, `checkedAdd?` — addition that stays below 2⁶⁴.
-/

namespace Minidump

/-- The number of addresses: all are below it. -/
def addressLimit : Nat := UInt64.size

/-- The sum of two numbers, unless it needs more than 64 bits. -/
def checkedAdd? (a b : Nat) : Option Nat :=
  if a + b < addressLimit then some (a + b) else none

/-- The addresses from `start` up to, but not including, `stop`. -/
structure AddressRange where
  start : Nat
  stop : Nat
deriving DecidableEq

namespace AddressRange

/-- An address is in a range if it is not before its start and is before its end. -/
def Contains (range : AddressRange) (address : Nat) : Prop :=
  range.start ≤ address ∧ address < range.stop

instance (range : AddressRange) (address : Nat) : Decidable (range.Contains address) :=
  inferInstanceAs (Decidable (_ ∧ _))

/-- The number of addresses in a range. -/
def length (range : AddressRange) : Nat :=
  range.stop - range.start

/-- A range without addresses. -/
def IsEmpty (range : AddressRange) : Prop :=
  range.stop ≤ range.start

instance (range : AddressRange) : Decidable range.IsEmpty :=
  inferInstanceAs (Decidable (_ ≤ _))

/-- The address of the last byte; zero if there is nothing before the end. -/
def last (range : AddressRange) : Nat :=
  range.stop - 1

/-- The range of `size` addresses from `start` on, unless its end needs more than 64
bits. -/
def ofSize? (start size : Nat) : Option AddressRange :=
  (checkedAdd? start size).map (AddressRange.mk start)

end AddressRange

end Minidump
