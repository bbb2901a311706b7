import Minidump.Proofs.WideText

/-!
# Wide text is well-formed or has a lone surrogate

A list of units is the written form of at most one text, and of none iff some surrogate in
it has no partner. Which it is can be seen from the front: a plain unit is a character, a
high and a low surrogate are one character, and anything else is a surrogate on its own. So
there is one induction for all that can be said about reading units, `units_induction`.

- `Utf16.highAt`, `Utf16.lowAt`, `Utf16.pairAt`, `Utf16.IsLone` — the units at an index that
  are surrogates, and those among them that are no part of a pair;
- `Utf16.units_induction` — the induction that follows the reading of units;
- `Utf16.decodeUnits?_eq_some_iff`, `Utf16.decodeUnits?_eq_none_iff` — what units are read
  as, and when they are no text;
- `Utf16.decode_eq_ok_iff`, `Utf16.decode_eq_error_iff` — the same of bytes, an odd number of
  which is refused.
-/

namespace Minidump

namespace Utf16

/-! ## Surrogates in a list of units -/

/-- The unit at an index is the first one of a pair, if it has a partner. -/
def highAt (us : List UInt16) (index : Nat) : Bool :=
  us[index]?.any isHighSurrogate

/-- The unit at an index is the second one of a pair, if it has a partner. -/
def lowAt (us : List UInt16) (index : Nat) : Bool :=
  us[index]?.any isLowSurrogate

/-- A pair of surrogates starts at an index. -/
def pairAt (us : List UInt16) (index : Nat) : Bool :=
  highAt us index && lowAt us (index + 1)

/-- The unit at an index is a surrogate, but not part of a pair: none starts here, and none
starts one unit before. -/
def IsLone (us : List UInt16) (index : Nat) : Prop :=
  (highAt us index ∨ lowAt us index) ∧ ¬ pairAt us index ∧
    (index = 0 ∨ ¬ pairAt us (index - 1))

instance (us : List UInt16) (index : Nat) : Decidable (IsLone us index) :=
  inferInstanceAs (Decidable (_ ∧ _ ∧ _))

@[simp] theorem highAt_nil (index : Nat) : highAt [] index = false := rfl

@[simp] theorem lowAt_nil (index : Nat) : lowAt [] index = false := rfl

@[simp] theorem highAt_cons_zero (u : UInt16) (us : List UInt16) :
    highAt (u :: us) 0 = isHighSurrogate u := rfl

@[simp] theorem lowAt_cons_zero (u : UInt16) (us : List UInt16) :
    lowAt (u :: us) 0 = isLowSurrogate u := rfl

@[simp] theorem highAt_cons_succ (u : UInt16) (us : List UInt16) (index : Nat) :
    highAt (u :: us) (index + 1) = highAt us index := rfl

@[simp] theorem lowAt_cons_succ (u : UInt16) (us : List UInt16) (index : Nat) :
    lowAt (u :: us) (index + 1) = lowAt us index := rfl

@[simp] theorem pairAt_cons_zero (u : UInt16) (us : List UInt16) :
    pairAt (u :: us) 0 = (isHighSurrogate u && lowAt us 0) := rfl

@[simp] theorem pairAt_cons_succ (u : UInt16) (us : List UInt16) (index : Nat) :
    pairAt (u :: us) (index + 1) = pairAt us index := rfl

/-- No unit is both halves of a pair. -/
theorem isHighSurrogate_of_isLowSurrogate {u : UInt16} (h : isLowSurrogate u = true) :
    isHighSurrogate u = false := by
  rw [isLowSurrogate_iff] at h
  rw [Bool.eq_false_iff, ne_eq, isHighSurrogate_iff]
  omega

theorem not_isLone_nil (index : Nat) : ¬ IsLone [] index := by
  simp [IsLone]

/-- A unit put in front changes nothing about the units behind it, unless it makes a pair
with the first one. -/
theorem isLone_cons_succ (u : UInt16) (us : List UInt16) (index : Nat) :
    IsLone (u :: us) (index + 1) ↔
      IsLone us index ∧ (index = 0 → pairAt (u :: us) 0 = false) := by
  cases index with
  | zero => simp [IsLone, and_assoc]
  | succ index => simp [IsLone]

/-- A unit that is no surrogate in front of others. -/
theorem exists_isLone_cons_char {u : UInt16} (rest : List UInt16)
    (hhigh : isHighSurrogate u = false) (hlow : isLowSurrogate u = false) :
    (∃ index, IsLone (u :: rest) index) ↔ ∃ index, IsLone rest index := by
  constructor
  · rintro ⟨index, h⟩
    cases index with
    | zero => simp [IsLone, hhigh, hlow] at h
    | succ index => exact ⟨index, ((isLone_cons_succ u rest index).mp h).1⟩
  · rintro ⟨index, h⟩
    exact ⟨index + 1, (isLone_cons_succ u rest index).mpr ⟨h, fun _ => by simp [hhigh]⟩⟩

/-- A pair of surrogates in front of others. -/
theorem exists_isLone_cons_pair {u v : UInt16} (rest : List UInt16)
    (hhigh : isHighSurrogate u = true) (hlow : isLowSurrogate v = true) :
    (∃ index, IsLone (u :: v :: rest) index) ↔ ∃ index, IsLone rest index := by
  have hsecond := isHighSurrogate_of_isLowSurrogate hlow
  constructor
  · rintro ⟨index, h⟩
    -- the first two units are each other's partners
    match index with
    | 0 => simp [IsLone, hhigh, hlow] at h
    | 1 => simp [IsLone, hhigh, hlow] at h
    | index + 2 =>
      obtain ⟨h, -⟩ := (isLone_cons_succ u (v :: rest) (index + 1)).mp h
      exact ⟨index, ((isLone_cons_succ v rest index).mp h).1⟩
  · rintro ⟨index, h⟩
    refine ⟨index + 2, (isLone_cons_succ u (v :: rest) (index + 1)).mpr ⟨?_, nofun⟩⟩
    exact (isLone_cons_succ v rest index).mpr ⟨h, fun _ => by simp [hsecond]⟩

/-- Units are read from the front: there are none, or the first is a character, or the first
two are, or the first is a surrogate on its own. -/
@[elab_as_elim]
theorem units_induction {motive : List UInt16 → Prop} (nil : motive [])
    (char : ∀ u rest, isHighSurrogate u = false → isLowSurrogate u = false → motive rest →
      motive (u :: rest))
    (pair : ∀ u v rest, isHighSurrogate u = true → isLowSurrogate v = true → motive rest →
      motive (u :: v :: rest))
    (lone : ∀ u rest, IsLone (u :: rest) 0 → motive (u :: rest)) : ∀ us, motive us
  | [] => nil
  | [u] => by
    by_cases hsurrogate : isHighSurrogate u = true ∨ isLowSurrogate u = true
    · exact lone u [] (by simp [IsLone, hsurrogate])
    · simp only [not_or, Bool.not_eq_true] at hsurrogate
      exact char u [] hsurrogate.1 hsurrogate.2 nil
  | u :: v :: rest => by
    by_cases hhigh : isHighSurrogate u = true
    · by_cases hlow : isLowSurrogate v = true
      · exact pair u v rest hhigh hlow (units_induction nil char pair lone rest)
      · exact lone u (v :: rest) (by simp [IsLone, hhigh, hlow])
    · by_cases hlow : isLowSurrogate u = true
      · exact lone u (v :: rest) (by simp [IsLone, hhigh, hlow])
      · simp only [Bool.not_eq_true] at hhigh hlow
        exact char u (v :: rest) hhigh hlow (units_induction nil char pair lone (v :: rest))

/-! ## What units are read as -/

/-- A surrogate on its own is no text, whatever follows it. -/
theorem decodeUnits?_of_isLone {u : UInt16} {rest : List UInt16} (h : IsLone (u :: rest) 0) :
    decodeUnits? (u :: rest) = none := by
  rw [decodeUnits?, decodeUnitsOnto.eq_def]
  cases rest with
  | nil =>
    simp only [IsLone, highAt_cons_zero, lowAt_cons_zero] at h
    rcases h.1 with hhigh | hlow
    · simp [hhigh]
    · simp [isHighSurrogate_of_isLowSurrogate hlow, hlow]
  | cons v rest =>
    simp only [IsLone, highAt_cons_zero, lowAt_cons_zero, pairAt_cons_zero] at h
    rcases h.1 with hhigh | hlow
    · have hpartner : isLowSurrogate v = false := by simpa [hhigh] using h.2.1
      simp [hhigh, hpartner]
    · simp [isHighSurrogate_of_isLowSurrogate hlow, hlow]

/-- A unit that is no surrogate is written as itself. -/
theorem encodeChar_ofNat {u : UInt16} (hhigh : isHighSurrogate u = false)
    (hlow : isLowSurrogate u = false) : encodeChar (Char.ofNat u.toNat) = [u] := by
  have hlt := u.toNat_lt
  rw [Bool.eq_false_iff, ne_eq, isHighSurrogate_iff] at hhigh
  rw [Bool.eq_false_iff, ne_eq, isLowSurrogate_iff] at hlow
  have hvalid : u.toNat.isValidChar := by
    unfold Nat.isValidChar
    omega
  have hchar : (Char.ofNat u.toNat).toNat = u.toNat := by
    rw [Char.ofNat, dif_pos hvalid]
    rfl
  rw [encodeChar, hchar, if_pos hlt, UInt16.ofNat_toNat]

/-- The character of a pair is written as this pair. -/
theorem encodeChar_pairChar {u v : UInt16} (hhigh : isHighSurrogate u = true)
    (hlow : isLowSurrogate v = true) : encodeChar (pairChar u v) = [u, v] := by
  rw [isHighSurrogate_iff] at hhigh
  rw [isLowSurrogate_iff] at hlow
  have hvalid : (0x10000 + (u.toNat - 0xd800) * 0x400 + (v.toNat - 0xdc00)).isValidChar := by
    unfold Nat.isValidChar
    omega
  have hchar : (pairChar u v).toNat
      = 0x10000 + (u.toNat - 0xd800) * 0x400 + (v.toNat - 0xdc00) := by
    rw [pairChar, Char.ofNat, dif_pos hvalid]
    rfl
  have hfirst : 0xd800 + ((pairChar u v).toNat - 0x10000) / 0x400 = u.toNat := by omega
  have hsecond : 0xdc00 + ((pairChar u v).toNat - 0x10000) % 0x400 = v.toNat := by omega
  have hlong : ¬ (pairChar u v).toNat < 0x10000 := by omega
  rw [encodeChar, if_neg hlong]
  simp only [hfirst, hsecond, UInt16.ofNat_toNat]

theorem encodeUnits_of_decodeUnits? {us : List UInt16} {text : List Char}
    (h : decodeUnits? us = some text) : encodeUnits text = us := by
  induction us using units_induction generalizing text with
  | nil =>
    cases h
    rfl
  | char u rest hhigh hlow ih =>
    rw [decodeUnits?_cons_char rest hhigh hlow, Option.map_eq_some_iff] at h
    obtain ⟨text, hrest, rfl⟩ := h
    rw [encodeUnits, List.flatMap_cons, encodeChar_ofNat hhigh hlow]
    exact congrArg (u :: ·) (ih hrest)
  | pair u v rest hhigh hlow ih =>
    rw [decodeUnits?_cons_pair rest hhigh hlow, Option.map_eq_some_iff] at h
    obtain ⟨text, hrest, rfl⟩ := h
    rw [encodeUnits, List.flatMap_cons, encodeChar_pairChar hhigh hlow]
    exact congrArg (u :: v :: ·) (ih hrest)
  | lone u rest hlone =>
    rw [decodeUnits?_of_isLone hlone] at h
    cases h

/-- Units are read as a text iff they are how it is written. -/
theorem decodeUnits?_eq_some_iff {us : List UInt16} {text : List Char} :
    decodeUnits? us = some text ↔ us = encodeUnits text :=
  ⟨fun h => (encodeUnits_of_decodeUnits? h).symm, fun h => h ▸ decodeUnits?_encodeUnits text⟩

/-- Units are no text iff there is a surrogate without its partner. -/
theorem decodeUnits?_eq_none_iff {us : List UInt16} :
    decodeUnits? us = none ↔ ∃ index, IsLone us index := by
  induction us using units_induction with
  | nil => simp [not_isLone_nil]
  | char u rest hhigh hlow ih =>
    rw [decodeUnits?_cons_char rest hhigh hlow, Option.map_eq_none_iff, ih,
      exists_isLone_cons_char rest hhigh hlow]
  | pair u v rest hhigh hlow ih =>
    rw [decodeUnits?_cons_pair rest hhigh hlow, Option.map_eq_none_iff, ih,
      exists_isLone_cons_pair rest hhigh hlow]
  | lone u rest hlone => exact ⟨fun _ => ⟨0, hlone⟩, fun _ => decodeUnits?_of_isLone hlone⟩

/-! ## Bytes -/

theorem unitBytes_unit (low high : UInt8) : unitBytes (unit low high) = [low, high] := by
  have hlow := low.toNat_lt
  have hhigh := high.toNat_lt
  have hunit : (unit low high).toNat = low.toNat + 256 * high.toNat := by
    rw [unit, UInt16.toNat_ofNat']
    omega
  have hfirst : UInt8.ofNat (low.toNat + 256 * high.toNat) = low := by
    apply UInt8.toNat_inj.mp
    rw [UInt8.toNat_ofNat']
    omega
  have hsecond : UInt8.ofNat ((low.toNat + 256 * high.toNat) / 256) = high := by
    apply UInt8.toNat_inj.mp
    rw [UInt8.toNat_ofNat']
    omega
  rw [unitBytes, hunit, hfirst, hsecond]

/-- Bytes in even number are how their units are written. -/
theorem flatMap_unitBytes_units : ∀ {bs : List UInt8}, bs.length % 2 = 0 →
    (units bs).flatMap unitBytes = bs
  | [], _ => rfl
  | [_], h => nomatch h
  | low :: high :: rest, h => by
    have hrest : rest.length % 2 = 0 := by
      simp only [List.length_cons] at h
      omega
    rw [units_cons_cons, List.flatMap_cons, unitBytes_unit, flatMap_unitBytes_units hrest]
    rfl

/-- Bytes are read as a text iff they are how it is written. -/
theorem decode_eq_ok_iff {bs : List UInt8} {text : String} :
    decode bs = .ok text ↔ bs = encodeBytes text.toList := by
  constructor
  · intro h
    unfold decode textOfUnits at h
    by_cases hodd : bs.length % 2 ≠ 0
    · rw [if_pos hodd] at h
      cases h
    · rw [if_neg hodd] at h
      cases hunits : decodeUnits? (units bs) with
      | none =>
        rw [hunits] at h
        cases h
      | some cs =>
        rw [hunits] at h
        obtain rfl : String.ofList cs = text := Except.ok.inj h
        rw [encodeBytes, String.toList_ofList, encodeUnits_of_decodeUnits? hunits,
          flatMap_unitBytes_units (by omega)]
  · rintro rfl
    rw [decode_encodeBytes, String.ofList_toList]

/-- Bytes are no text iff they are odd in number or their units have a surrogate without its
partner. -/
theorem decode_eq_error_iff {bs : List UInt8} {cause : Error} :
    decode bs = .error cause ↔
      (bs.length % 2 = 1 ∧ cause = .oddLength bs.length) ∨
      (bs.length % 2 = 0 ∧ (∃ index, IsLone (units bs) index) ∧ cause = .loneSurrogate) := by
  unfold decode textOfUnits
  rw [← decodeUnits?_eq_none_iff]
  by_cases hodd : bs.length % 2 ≠ 0
  · rw [if_pos hodd]
    constructor
    · intro h
      exact .inl ⟨by omega, (Except.error.inj h).symm⟩
    · rintro (⟨-, rfl⟩ | ⟨heven, -⟩)
      · rfl
      · exact absurd heven hodd
  · rw [if_neg hodd]
    cases decodeUnits? (units bs) with
    | none =>
      constructor
      · intro h
        exact .inr ⟨by omega, rfl, (Except.error.inj h).symm⟩
      · rintro (⟨h, -⟩ | ⟨-, -, rfl⟩)
        · omega
        · rfl
    | some cs =>
      constructor
      · nofun
      · rintro (⟨h, -⟩ | ⟨-, h, -⟩)
        · omega
        · cases h

theorem decode_ne_overflow (bs : List UInt8) (quantity : Quantity) :
    decode bs ≠ .error (.overflow quantity) := by
  intro h
  rcases decode_eq_error_iff.mp h with ⟨-, hcause⟩ | ⟨-, -, hcause⟩ <;> cases hcause

end Utf16

end Minidump
