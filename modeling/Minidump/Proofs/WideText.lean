import Minidump.Text.Utf16

/-!
# Wide text reads back

Every text has one form as 16-bit units, and so one as bytes. Reading undoes writing, for
characters of one unit and of two, and what follows the written text is left for the next
reader.

- `Utf16.isHighSurrogate_iff`, `Utf16.isLowSurrogate_iff` — surrogates as ranges of
  numbers;
- `Utf16.units_bytes_append` — units that were written as bytes are read back;
- `Utf16.decodeUnits?_encodeChar_append`, `Utf16.decodeUnits?_encodeUnits` — so are
  characters that were written as units;
- `Utf16.decode_encodeBytes` — and so is a text that was written as bytes;
- `Utf16.ne_zero_of_mem_encodeUnits` — a text without NUL has no NUL among its units.
-/

namespace Minidump

namespace Utf16

/-! ## Units and bytes -/

theorem unit_unitBytes (u : UInt16) :
    unit (UInt8.ofNat u.toNat) (UInt8.ofNat (u.toNat / 256)) = u := by
  have hlt := u.toNat_lt
  unfold unit
  apply UInt16.toNat_inj.mp
  simp only [UInt8.toNat_ofNat', UInt16.toNat_ofNat']
  omega

/-- Units that were written are read back, whatever follows them. -/
theorem units_bytes_append (us : List UInt16) (rest : List UInt8) :
    units (us.flatMap unitBytes ++ rest) = us ++ units rest := by
  induction us with
  | nil => rfl
  | cons u us ih =>
    have hcons : (u :: us).flatMap unitBytes ++ rest
        = UInt8.ofNat u.toNat :: UInt8.ofNat (u.toNat / 256) :: (us.flatMap unitBytes ++ rest) :=
      rfl
    rw [hcons, units_cons_cons, unit_unitBytes, ih, List.cons_append]

@[simp] theorem length_unitBytes (us : List UInt16) :
    (us.flatMap unitBytes).length = 2 * us.length := by
  induction us with
  | nil => rfl
  | cons u us ih =>
    rw [List.flatMap_cons, List.length_append, ih, List.length_cons]
    have htwo : (unitBytes u).length = 2 := rfl
    omega

theorem length_encodeBytes (text : List Char) :
    (encodeBytes text).length = 2 * (encodeUnits text).length :=
  length_unitBytes (encodeUnits text)

/-! ## Characters and units -/

theorem isHighSurrogate_iff {u : UInt16} :
    isHighSurrogate u = true ↔ 0xd800 ≤ u.toNat ∧ u.toNat ≤ 0xdbff := by
  simp [isHighSurrogate, UInt16.le_iff_toNat_le]

theorem isLowSurrogate_iff {u : UInt16} :
    isLowSurrogate u = true ↔ 0xdc00 ≤ u.toNat ∧ u.toNat ≤ 0xdfff := by
  simp [isLowSurrogate, UInt16.le_iff_toNat_le]

/-- The numbers of characters leave out the surrogates. -/
theorem toNat_char (c : Char) : c.toNat < 0xd800 ∨ (0xdfff < c.toNat ∧ c.toNat < 0x110000) :=
  c.valid

/-- A character of one unit is read back. -/
theorem decodeUnits?_short {c : Char} (hc : c.toNat < 0x10000) (us : List UInt16) :
    decodeUnits? (UInt16.ofNat c.toNat :: us) = (decodeUnits? us).map (c :: ·) := by
  have hunit : (UInt16.ofNat c.toNat).toNat = c.toNat := by
    rw [UInt16.toNat_ofNat']
    omega
  have hchar := toNat_char c
  have hhigh : isHighSurrogate (UInt16.ofNat c.toNat) = false := by
    rw [Bool.eq_false_iff, ne_eq, isHighSurrogate_iff, hunit]
    omega
  have hlow : isLowSurrogate (UInt16.ofNat c.toNat) = false := by
    rw [Bool.eq_false_iff, ne_eq, isLowSurrogate_iff, hunit]
    omega
  rw [decodeUnits?_cons_char us hhigh hlow, hunit, Char.ofNat_toNat]

/-- The two units of a character beyond the first 65536 are a pair of surrogates and stand
for this character. -/
theorem decodeUnits?_pair {n : Nat} {c : Char} (hc : c.toNat = 0x10000 + n)
    (us : List UInt16) :
    decodeUnits? (UInt16.ofNat (0xd800 + n / 0x400) :: UInt16.ofNat (0xdc00 + n % 0x400) :: us)
      = (decodeUnits? us).map (c :: ·) := by
  have hchar := toNat_char c
  have hn : n / 0x400 < 0x400 := by omega
  have hfirst : (UInt16.ofNat (0xd800 + n / 0x400)).toNat = 0xd800 + n / 0x400 := by
    rw [UInt16.toNat_ofNat']
    omega
  have hsecond : (UInt16.ofNat (0xdc00 + n % 0x400)).toNat = 0xdc00 + n % 0x400 := by
    rw [UInt16.toNat_ofNat']
    omega
  have hhigh : isHighSurrogate (UInt16.ofNat (0xd800 + n / 0x400)) = true := by
    rw [isHighSurrogate_iff, hfirst]
    omega
  have hlow : isLowSurrogate (UInt16.ofNat (0xdc00 + n % 0x400)) = true := by
    rw [isLowSurrogate_iff, hsecond]
    omega
  -- the high half of `n` and its low half make up `n`
  have hpair : pairChar (UInt16.ofNat (0xd800 + n / 0x400)) (UInt16.ofNat (0xdc00 + n % 0x400))
      = c := by
    have hsum : 0x10000 + (0xd800 + n / 0x400 - 0xd800) * 0x400 + (0xdc00 + n % 0x400 - 0xdc00)
        = c.toNat := by
      omega
    rw [pairChar, hfirst, hsecond, hsum, Char.ofNat_toNat]
  rw [decodeUnits?_cons_pair us hhigh hlow, hpair]

theorem decodeUnits?_encodeChar_append (c : Char) (us : List UInt16) :
    decodeUnits? (encodeChar c ++ us) = (decodeUnits? us).map (c :: ·) := by
  unfold encodeChar
  by_cases hshort : c.toNat < 0x10000
  · rw [if_pos hshort]
    exact decodeUnits?_short hshort us
  · rw [if_neg hshort]
    exact decodeUnits?_pair (by omega) us

theorem decodeUnits?_encodeUnits (text : List Char) :
    decodeUnits? (encodeUnits text) = some text := by
  induction text with
  | nil => rfl
  | cons c text ih =>
    have hcons : encodeUnits (c :: text) = encodeChar c ++ encodeUnits text := List.flatMap_cons
    rw [hcons, decodeUnits?_encodeChar_append, ih, Option.map_some]

/-- A text that was written as bytes is read back. -/
theorem decode_encodeBytes (text : List Char) :
    decode (encodeBytes text) = .ok (String.ofList text) := by
  have hunits : units (encodeBytes text) = encodeUnits text := by
    have h := units_bytes_append (encodeUnits text) []
    rwa [List.append_nil, units_nil, List.append_nil] at h
  have heven : ¬ (encodeBytes text).length % 2 ≠ 0 := by
    rw [length_encodeBytes]
    omega
  rw [decode, if_neg heven, hunits, textOfUnits, decodeUnits?_encodeUnits]

/-! ## NUL -/

/-- A unit of a character is the number of the character or a surrogate. -/
theorem toNat_of_mem_encodeChar {c : Char} {u : UInt16} (hu : u ∈ encodeChar c) :
    u.toNat = c.toNat ∨ 0xd800 ≤ u.toNat := by
  have hchar := toNat_char c
  unfold encodeChar at hu
  by_cases hshort : c.toNat < 0x10000
  · rw [if_pos hshort, List.mem_singleton] at hu
    left
    rw [hu, UInt16.toNat_ofNat']
    omega
  · rw [if_neg hshort] at hu
    right
    simp only [List.mem_cons, List.not_mem_nil, or_false] at hu
    rcases hu with rfl | rfl
    · rw [UInt16.toNat_ofNat']
      omega
    · rw [UInt16.toNat_ofNat']
      omega

/-- A text without NUL has no NUL among its units. -/
theorem ne_zero_of_mem_encodeUnits {text : List Char} (htext : '\x00' ∉ text) {u : UInt16}
    (hu : u ∈ encodeUnits text) : u ≠ 0 := by
  obtain ⟨c, hc, hu⟩ := List.mem_flatMap.mp hu
  rintro rfl
  rcases toNat_of_mem_encodeChar hu with hzero | hlarge
  · have hnul : c = '\x00' := Char.toNat_inj.mp hzero.symm
    exact htext (hnul ▸ hc)
  · exact absurd hlarge (by decide)

end Utf16

end Minidump
