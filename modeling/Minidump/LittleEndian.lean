/-!
# Little-endian numbers

A number is stored with its least significant byte first.

- `value` — the number that a list of bytes stands for;
- `bytes` — the `width` low bytes of a number;
- `capacity` — how many numbers fit in `width` bytes;
- `value_lt_capacity` — a number fits in as many bytes as it is read from;
- `value_bytes`, `bytes_value` — the two undo each other on numbers that fit and
  on lists of the right length.
-/

namespace Minidump

namespace LittleEndian

/-- The number whose base-256 digits, least significant first, are the bytes. -/
def value : List UInt8 → Nat
  | [] => 0
  | b :: bs => b.toNat + 256 * value bs

/-- The `width` least significant base-256 digits of a number, lowest first. -/
def bytes : Nat → Nat → List UInt8
  | 0, _ => []
  | width + 1, n => UInt8.ofNat n :: bytes width (n / 256)

/-- How many numbers fit in `width` bytes. -/
def capacity : Nat → Nat
  | 0 => 1
  | width + 1 => 256 * capacity width

@[simp] theorem length_bytes (width n : Nat) : (bytes width n).length = width := by
  induction width generalizing n with
  | zero => rfl
  | succ width ih => simp [bytes, ih]

/-- A number that fits in `width` bytes is read back from them. -/
theorem value_bytes {width n : Nat} (h : n < capacity width) : value (bytes width n) = n := by
  induction width generalizing n with
  | zero =>
    simp only [capacity] at h
    simp only [bytes, value]
    omega
  | succ width ih =>
    simp only [capacity] at h
    have hdiv : n / 256 < capacity width := Nat.div_lt_of_lt_mul h
    simp only [bytes, value, ih hdiv, UInt8.toNat_ofNat']
    omega

/-- A list of bytes stands for a number that fits in as many bytes. -/
theorem value_lt (bs : List UInt8) : value bs < capacity bs.length := by
  induction bs with
  | nil => simp [value, capacity]
  | cons b bs ih =>
    have := b.toNat_lt
    simp only [value, List.length_cons, capacity]
    omega

theorem capacity_le {width wider : Nat} (h : width ≤ wider) : capacity width ≤ capacity wider := by
  induction h with
  | refl => exact Nat.le_refl _
  | step _ ih => exact Nat.le_trans ih (Nat.le_mul_of_pos_left _ (by decide))

theorem value_lt_capacity {bs : List UInt8} {width : Nat} (h : bs.length ≤ width) :
    value bs < capacity width :=
  Nat.lt_of_lt_of_le (value_lt bs) (capacity_le h)

/-- Every list of bytes is the form in which its number is written. -/
theorem bytes_value (bs : List UInt8) : bytes bs.length (value bs) = bs := by
  induction bs with
  | nil => rfl
  | cons b bs ih =>
    have hb := b.toNat_lt
    have hdiv : (b.toNat + 256 * value bs) / 256 = value bs := by omega
    have hlow : UInt8.ofNat (b.toNat + 256 * value bs) = b := by
      apply UInt8.toNat_inj.1
      rw [UInt8.toNat_ofNat']
      omega
    simp only [List.length_cons, value, bytes, hdiv, hlow, ih]

end LittleEndian

end Minidump
