import Minidump.Proofs.Memory

/-!
# When a read of the file succeeds

A read at an offset succeeds iff all it asks for is in the file, and otherwise says what is
missing. It depends on nothing beyond what it asks for, so bytes behind the end of a file
cannot change what was read before they were there.

- `Image.window?_eq_some_iff`, `Image.window?_add_eq_some_iff` — byte ranges, and such that
  lie back to back;
- `Image.readBytes_add_eq_ok_iff` — bytes that are read at once or in two parts;
- `Image.exists_read_iff`, `Image.read_eq_error_iff` — records;
- `Image.readBytes_eq_error_iff` — bytes, of which none can be read anywhere;
- `Image.append`, `Image.read_append`, `Image.readBytes_append` — a file with more bytes
  behind its end.
-/

namespace Minidump

namespace Image

variable {image : Image} {α : Type} {layout : Layout α} {offset length : Nat}

/-! ## What is in the file -/

theorem window?_eq_some_iff {bs : List UInt8} :
    image.window? offset length = some bs ↔
      offset + length ≤ image.size ∧
        bs = (image.bytes.data.toList.drop offset).take length := by
  have hextract : (image.bytes.extract offset (offset + length)).data.toList
      = (image.bytes.data.toList.drop offset).take length := by
    simp only [ByteArray.data_extract, Array.toList_extract, List.extract_eq_take_drop,
      Nat.add_sub_cancel_left]
  unfold window?
  rw [hextract]
  by_cases hfits : offset + length ≤ image.size
  · rw [if_pos hfits, Option.some.injEq]
    exact ⟨fun h => ⟨hfits, h.symm⟩, fun h => h.2.symm⟩
  · rw [if_neg hfits]
    exact ⟨fun h => (nomatch h), fun h => absurd h.1 hfits⟩

theorem length_of_window? {bs : List UInt8} (h : image.window? offset length = some bs) :
    bs.length = length := by
  obtain ⟨hfits, rfl⟩ := window?_eq_some_iff.mp h
  have hsize : image.size = image.bytes.data.toList.length := rfl
  rw [List.length_take, List.length_drop]
  omega

/-- A range is made up of its first bytes and those that lie behind them. -/
theorem window?_add_eq_some_iff {first second : Nat} {bs : List UInt8} :
    image.window? offset (first + second) = some bs ↔
      ∃ front back, image.window? offset first = some front ∧
        image.window? (offset + first) second = some back ∧ bs = front ++ back := by
  simp only [window?_eq_some_iff]
  constructor
  · rintro ⟨hfits, rfl⟩
    refine ⟨_, _, ⟨by omega, rfl⟩, ⟨by omega, rfl⟩, ?_⟩
    rw [List.take_add, List.drop_drop]
  · rintro ⟨_, _, ⟨-, rfl⟩, ⟨hfits, rfl⟩, rfl⟩
    refine ⟨by omega, ?_⟩
    rw [List.take_add, List.drop_drop]

theorem readBytes_of_window? {bs : List UInt8} (h : image.window? offset bs.length = some bs) :
    image.readBytes offset bs.length = .ok bs := by
  unfold readBytes
  by_cases hempty : bs.length = 0
  · rw [if_pos hempty, List.length_eq_zero_iff.mp hempty]
  · rw [if_neg hempty, h]

theorem readBytes_eq_ok_iff_window? (hlength : length ≠ 0) {bs : List UInt8} :
    image.readBytes offset length = .ok bs ↔ image.window? offset length = some bs := by
  unfold readBytes
  rw [if_neg hlength]
  cases image.window? offset length with
  | none => exact ⟨fun h => (nomatch h), fun h => (nomatch h)⟩
  | some found =>
    exact ⟨fun h => congrArg some (Except.ok.inj h), fun h => congrArg _ (Option.some.inj h)⟩

theorem readBytes_zero (image : Image) (offset : Nat) : image.readBytes offset 0 = .ok [] :=
  if_pos rfl

/-- Bytes can be read at once iff the first ones and those behind them can be, also where there
are none of the one kind or the other, which need not be in the file. -/
theorem readBytes_add_eq_ok_iff {first second : Nat} {bs : List UInt8} :
    image.readBytes offset (first + second) = .ok bs ↔
      ∃ front back, image.readBytes offset first = .ok front ∧
        image.readBytes (offset + first) second = .ok back ∧ bs = front ++ back := by
  by_cases hfirst : first = 0
  · subst hfirst
    rw [readBytes_zero, Nat.zero_add, Nat.add_zero]
    constructor
    · intro h
      exact ⟨[], bs, rfl, h, rfl⟩
    · rintro ⟨_, back, hfront, hback, rfl⟩
      cases hfront
      exact hback
  · by_cases hsecond : second = 0
    · subst hsecond
      rw [readBytes_zero, Nat.add_zero]
      constructor
      · intro h
        exact ⟨bs, [], h, rfl, (List.append_nil bs).symm⟩
      · rintro ⟨front, _, hfront, hback, rfl⟩
        cases hback
        rw [hfront, List.append_nil]
    · have hsum : first + second ≠ 0 := fun h => hfirst (Nat.eq_zero_of_add_eq_zero_right h)
      simp only [readBytes_eq_ok_iff_window? hsum, readBytes_eq_ok_iff_window? hfirst,
        readBytes_eq_ok_iff_window? hsecond]
      exact window?_add_eq_some_iff

theorem exists_read_iff :
    (∃ a, image.read layout offset = .ok a) ↔ offset + layout.size ≤ image.size := by
  unfold read window?
  by_cases hfits : offset + layout.size ≤ image.size
  · rw [if_pos hfits]
    exact ⟨fun _ => hfits, fun _ => ⟨_, rfl⟩⟩
  · rw [if_neg hfits]
    exact ⟨fun h => (nomatch h), fun h => absurd h hfits⟩

theorem read_eq_error_iff {cause : Error} :
    image.read layout offset = .error cause ↔
      image.size < offset + layout.size ∧ cause = .truncated offset layout.size := by
  unfold read window?
  by_cases hfits : offset + layout.size ≤ image.size
  · rw [if_pos hfits]
    exact ⟨fun h => (nomatch h), fun h => absurd h.1 (Nat.not_lt.mpr hfits)⟩
  · rw [if_neg hfits]
    constructor
    · intro h
      exact ⟨Nat.lt_of_not_le hfits, (Except.error.inj h).symm⟩
    · rintro ⟨-, rfl⟩
      rfl

theorem readBytes_eq_error_iff {cause : Error} :
    image.readBytes offset length = .error cause ↔
      length ≠ 0 ∧ image.size < offset + length ∧ cause = .truncated offset length := by
  rw [readBytes_eq]
  by_cases hlength : length = 0
  · rw [if_pos hlength]
    exact ⟨fun h => (nomatch h), fun h => absurd hlength h.1⟩
  · rw [if_neg hlength]
    by_cases hfits : offset + length ≤ image.size
    · rw [if_pos hfits]
      exact ⟨fun h => (nomatch h), fun h => absurd h.2.1 (Nat.not_lt.mpr hfits)⟩
    · rw [if_neg hfits]
      constructor
      · intro h
        exact ⟨hlength, Nat.lt_of_not_le hfits, (Except.error.inj h).symm⟩
      · rintro ⟨-, -, rfl⟩
        rfl

/-- A read fails only for what is missing. -/
theorem read_ne_overflow (layout : Layout α) (offset : Nat) (quantity : Quantity) :
    image.read layout offset ≠ .error (.overflow quantity) := by
  intro h
  cases (read_eq_error_iff.mp h).2

theorem readBytes_ne_overflow (offset length : Nat) (quantity : Quantity) :
    image.readBytes offset length ≠ .error (.overflow quantity) := by
  intro h
  cases (readBytes_eq_error_iff.mp h).2.2

/-! ## Bytes behind the end -/

/-- A file with more bytes behind its end. -/
def append (image : Image) (suffix : ByteArray) : Image where
  bytes := image.bytes ++ suffix

theorem window?_append {bs : List UInt8} (h : image.window? offset length = some bs)
    (suffix : ByteArray) : (image.append suffix).window? offset length = some bs := by
  unfold window? at h ⊢
  by_cases hfits : offset + length ≤ image.size
  · rw [if_pos hfits] at h
    have hfits' : offset + length ≤ (image.append suffix).size := by
      refine Nat.le_trans hfits ?_
      show image.bytes.size ≤ (image.bytes ++ suffix).size
      rw [ByteArray.size_append]
      exact Nat.le_add_right _ _
    rw [if_pos hfits', ← h]
    -- the range ends where the suffix has not begun
    have hend : offset + length - image.bytes.size = 0 := Nat.sub_eq_zero_of_le hfits
    have hnone : suffix.extract (offset - image.bytes.size) 0 = ByteArray.empty := by simp
    show some ((image.bytes ++ suffix).extract offset (offset + length)).data.toList = _
    rw [ByteArray.extract_append, hend, hnone, ByteArray.append_empty]
  · rw [if_neg hfits] at h
    cases h

/-- A record that was read is read there again. -/
theorem read_append {a : α} (h : image.read layout offset = .ok a) (suffix : ByteArray) :
    (image.append suffix).read layout offset = .ok a := by
  unfold read at h ⊢
  cases hwindow : image.window? offset layout.size with
  | none =>
    rw [hwindow] at h
    cases h
  | some bs =>
    rw [hwindow] at h
    rw [window?_append hwindow]
    exact h

/-- Bytes that were read are read there again. -/
theorem readBytes_append {bs : List UInt8} (h : image.readBytes offset length = .ok bs)
    (suffix : ByteArray) : (image.append suffix).readBytes offset length = .ok bs := by
  unfold readBytes at h ⊢
  by_cases hlength : length = 0
  · rw [if_pos hlength] at h ⊢
    exact h
  · rw [if_neg hlength] at h ⊢
    cases hwindow : image.window? offset length with
    | none =>
      rw [hwindow] at h
      cases h
    | some found =>
      rw [hwindow] at h
      rw [window?_append hwindow]
      exact h

end Image

end Minidump
