import Minidump.Proofs.EnvironmentGrammar
import Minidump.Proofs.NarrowText
import Minidump.Proofs.SequentialLists
import Mathlib.Data.Nat.Find

/-!
# Comments end at their first terminator

A comment is stored with a terminator or without one, and nothing says what is behind it. Both
kinds of comments end at the first unit that is NUL, which is one byte for narrow ones and two for
wide ones. A wide unit starts at an even index, so two zero bytes of which the first is the high
half of a unit are no terminator.

- `NulAt`, `CutAt` — a unit that is NUL, and where the text before the first such unit ends;
- `CutAt.takeWhile_eq`, `CutAt.takeWhile_units_eq` — what the decoders keep of their bytes;
- `Utf8.StoredIn`, `Utf16.StoredIn` — bytes that are a text, up to a terminator if there is one;
- `Scan.comments_end_at_first_nul` — the two comments are cut off there and nowhere else.
-/

namespace Minidump

/-! ## Where text is cut off -/

/-- A unit of some bytes is NUL: all of it is there, and all of it is zero. -/
def NulAt (width : Nat) (bs : List UInt8) (index : Nat) : Prop :=
  ∀ j < width, bs[width * index + j]? = some 0

instance (width : Nat) (bs : List UInt8) (index : Nat) : Decidable (NulAt width bs index) :=
  inferInstanceAs (Decidable (∀ j < width, _))

/-- The text of some bytes ends behind a number of units: none of them is NUL, and the next one is,
or there is no other whole unit. -/
structure CutAt (width : Nat) (bs : List UInt8) (count : Nat) : Prop where
  in_bytes : width * count ≤ bs.length
  not_nul : ∀ index < count, ¬ NulAt width bs index
  stops : bs.length < width * (count + 1) ∨ NulAt width bs count

instance (width : Nat) (bs : List UInt8) (count : Nat) : Decidable (CutAt width bs count) :=
  decidable_of_iff (width * count ≤ bs.length ∧ (∀ index < count, ¬ NulAt width bs index) ∧
      (bs.length < width * (count + 1) ∨ NulAt width bs count))
    ⟨fun h => ⟨h.1, h.2.1, h.2.2⟩, fun h => ⟨h.1, h.2, h.3⟩⟩

/-- Every text ends somewhere. -/
theorem exists_cutAt {width : Nat} (hwidth : 0 < width) (bs : List UInt8) :
    ∃ count, CutAt width bs count := by
  have hexists : ∃ count, bs.length < width * (count + 1) ∨ NulAt width bs count := by
    refine ⟨bs.length, .inl ?_⟩
    calc bs.length < bs.length + 1 := Nat.lt_succ_self _
      _ ≤ width * (bs.length + 1) := Nat.le_mul_of_pos_left _ hwidth
  refine ⟨Nat.find hexists, ?_, ?_, Nat.find_spec hexists⟩
  · -- the text has not ended one unit before, so this unit is a whole one
    rcases Nat.eq_zero_or_pos (Nat.find hexists) with hzero | hpos
    · rw [hzero, Nat.mul_zero]
      exact Nat.zero_le _
    · have hbefore := Nat.find_min hexists (Nat.sub_one_lt_of_lt hpos)
      rw [Nat.sub_add_cancel hpos, not_or] at hbefore
      exact Nat.le_of_not_lt hbefore.1
  · exact fun index hindex hnul => Nat.find_min hexists hindex (.inr hnul)

theorem takeWhile_eq_take {α : Type} {p : α → Bool} {as : List α} {count : Nat}
    (hbefore : ∀ index < count, ∀ a, as[index]? = some a → p a = true)
    (hstop : ∀ a, as[count]? = some a → p a = false) : as.takeWhile p = as.take count := by
  induction as generalizing count with
  | nil => rw [List.takeWhile_nil, List.take_nil]
  | cons a as ih =>
    cases count with
    | zero => rw [List.takeWhile_cons_of_neg (by simp [hstop a rfl]), List.take_zero]
    | succ count =>
      rw [List.takeWhile_cons_of_pos (hbefore 0 (Nat.succ_pos _) a rfl), List.take_succ_cons,
        ih (fun index hindex => hbefore (index + 1) (Nat.succ_lt_succ hindex)) hstop]

namespace Utf16

/-- A unit is made up of the bytes at an even index and the next one. -/
theorem getElem?_units : ∀ (bs : List UInt8) (index : Nat),
    (units bs)[index]?
      = bs[2 * index]?.bind fun low => bs[2 * index + 1]?.map fun high => unit low high
  | [], index => by simp
  | [b], 0 => rfl
  | [b], index + 1 => by simp
  | low :: high :: rest, 0 => by simp
  | low :: high :: rest, index + 1 => by
    rw [units_cons_cons, List.getElem?_cons_succ, getElem?_units rest index]
    rfl

theorem units_take : ∀ (bs : List UInt8) (count : Nat),
    units (bs.take (2 * count)) = (units bs).take count
  | [], count => by simp
  | [b], 0 => rfl
  | [b], count + 1 => by
    rw [List.take_of_length_le (by simp only [List.length_singleton]; omega), units_singleton,
      List.take_nil]
  | low :: high :: rest, 0 => rfl
  | low :: high :: rest, count + 1 => by
    rw [Nat.mul_succ, List.take_succ_cons, List.take_succ_cons, units_cons_cons, units_cons_cons,
      List.take_succ_cons, units_take rest count]

theorem unit_eq_zero_iff {low high : UInt8} : unit low high = 0 ↔ low = 0 ∧ high = 0 := by
  have hlow := low.toNat_lt
  have hhigh := high.toNat_lt
  rw [← UInt16.toNat_inj, ← UInt8.toNat_inj, ← UInt8.toNat_inj, unit, UInt16.toNat_ofNat']
  simp only [UInt16.toNat_zero, UInt8.toNat_zero]
  omega

end Utf16

/-! ## What decoders keep -/

theorem nulAt_one_iff {bs : List UInt8} {index : Nat} :
    NulAt 1 bs index ↔ bs[index]? = some 0 := by
  simp [NulAt]

theorem nulAt_two_iff {bs : List UInt8} {index : Nat} :
    NulAt 2 bs index ↔ (Utf16.units bs)[index]? = some 0 := by
  rw [Utf16.getElem?_units]
  constructor
  · intro h
    rw [h 1 (by decide), show bs[2 * index]? = some 0 from h 0 (by decide)]
    rfl
  · intro h
    simp only [Option.bind_eq_some_iff, Option.map_eq_some_iff, Utf16.unit_eq_zero_iff] at h
    obtain ⟨_, hlow, _, hhigh, rfl, rfl⟩ := h
    intro j hj
    obtain rfl | rfl : j = 0 ∨ j = 1 := by omega
    · exact hlow
    · exact hhigh

namespace CutAt

variable {bs : List UInt8} {count : Nat}

/-- Units are kept up to the first one that is NUL, if all of them lie in the bytes. -/
theorem takeWhile_units {α : Type} [DecidableEq α] {zero : α} {us : List α} {width : Nat}
    (h : CutAt width bs count) (hnul : ∀ index, NulAt width bs index ↔ us[index]? = some zero)
    (hwhole : ∀ index < us.length, width * (index + 1) ≤ bs.length) :
    us.takeWhile (· ≠ zero) = us.take count := by
  refine takeWhile_eq_take ?_ ?_
  · intro index hindex u hu
    have hne := h.not_nul index hindex
    rw [hnul, hu, Option.some.injEq] at hne
    exact decide_eq_true hne
  · intro u hu
    rcases h.stops with hend | hstop
    · have hunit := hwhole count (List.getElem?_eq_some_iff.mp hu).1
      omega
    · rw [hnul, hu, Option.some.injEq] at hstop
      simp [hstop]

/-- Narrow text is kept up to its first zero byte. -/
theorem takeWhile_eq (h : CutAt 1 bs count) : bs.takeWhile (· ≠ 0) = bs.take count := by
  refine h.takeWhile_units (fun index => nulAt_one_iff) fun index hindex => ?_
  rw [Nat.one_mul]
  exact hindex

/-- Wide text is kept up to its first unit that is NUL. -/
theorem takeWhile_units_eq (h : CutAt 2 bs count) :
    (Utf16.units bs).takeWhile (· ≠ 0) = Utf16.units (bs.take (2 * count)) := by
  rw [Utf16.units_take]
  refine h.takeWhile_units (fun index => nulAt_two_iff) fun index hindex => ?_
  have hunit := List.getElem?_eq_getElem hindex
  rw [Utf16.getElem?_units, Option.bind_eq_some_iff] at hunit
  obtain ⟨low, -, hunit⟩ := hunit
  obtain ⟨high, hhigh, -⟩ := Option.map_eq_some_iff.mp hunit
  exact (List.getElem?_eq_some_iff.mp hhigh).1

end CutAt

/-- Text that is cut off is a whole number of units, of which the last odd byte is none. -/
theorem Utf16.decode_of_cutAt {bs : List UInt8} {count : Nat} (h : CutAt 2 bs count) :
    textOfUnits ((units bs).takeWhile (· ≠ 0)) = decode (bs.take (2 * count)) := by
  have heven : ¬ (bs.take (2 * count)).length % 2 ≠ 0 := by
    rw [List.length_take, Nat.min_eq_left h.in_bytes]
    omega
  rw [h.takeWhile_units_eq, decode, if_neg heven]

/-! ## Texts -/

/-- Units are read as a text iff they are how it is written. -/
theorem Utf16.textOfUnits_eq_ok_iff {us : List UInt16} {text : String} :
    textOfUnits us = .ok text ↔ us = encodeUnits text.toList := by
  rw [← decodeUnits?_eq_some_iff]
  unfold textOfUnits
  cases decodeUnits? us with
  | none => simp
  | some cs =>
    rw [Except.ok.injEq, Option.some.injEq]
    constructor
    · rintro rfl
      exact String.toList_ofList.symm
    · rintro rfl
      exact String.ofList_toList

/-- Bytes are a text, up to the first terminator if there is one. -/
def Utf8.StoredIn (text : String) (bs : List UInt8) : Prop :=
  bs = encodeBytes text.toList ∨ ∃ garbage, bs = encodeBytes text.toList ++ 0 :: garbage

/-- Bytes are a text, up to the first terminator or up to a last odd byte if there is one. -/
def Utf16.StoredIn (text : String) (bs : List UInt8) : Prop :=
  bs = encodeBytes text.toList ∨ (∃ last, bs = encodeBytes text.toList ++ [last]) ∨
    ∃ garbage, bs = encodeBytes text.toList ++ 0 :: 0 :: garbage

theorem Utf8.StoredIn.takeWhile_eq {text : String} {bs : List UInt8} (h : Utf8.StoredIn text bs)
    (htext : '\x00' ∉ text.toList) : bs.takeWhile (· ≠ 0) = encodeBytes text.toList := by
  have hkept : ∀ b ∈ encodeBytes text.toList, decide (b ≠ 0) = true :=
    fun b hb => decide_eq_true (ne_zero_of_mem_encodeBytes htext hb)
  rcases h with rfl | ⟨garbage, rfl⟩
  · exact List.takeWhile_eq_self_iff.mpr hkept
  · rw [List.takeWhile_append_of_pos hkept, List.takeWhile_cons_of_neg (by simp), List.append_nil]

theorem Utf16.StoredIn.takeWhile_units_eq {text : String} {bs : List UInt8}
    (h : Utf16.StoredIn text bs) (htext : '\x00' ∉ text.toList) :
    (units bs).takeWhile (· ≠ 0) = encodeUnits text.toList := by
  have hkept : ∀ u ∈ encodeUnits text.toList, decide (u ≠ 0) = true :=
    fun u hu => decide_eq_true (ne_zero_of_mem_encodeUnits htext hu)
  have hunits : ∀ rest, units (encodeBytes text.toList ++ rest)
      = encodeUnits text.toList ++ units rest := units_bytes_append _
  rcases h with rfl | ⟨last, rfl⟩ | ⟨garbage, rfl⟩
  · have h := hunits []
    rw [List.append_nil, units_nil, List.append_nil] at h
    rw [h]
    exact List.takeWhile_eq_self_iff.mpr hkept
  · rw [hunits, units_singleton, List.append_nil]
    exact List.takeWhile_eq_self_iff.mpr hkept
  · rw [hunits, units_cons_cons, List.takeWhile_append_of_pos hkept,
      List.takeWhile_cons_of_neg (by decide), List.append_nil]

/-! ## Comments -/

namespace Image

variable {image : Image} {location : Location}

theorem narrowComment_of_holds {bs : List UInt8} (h : image.HoldsBlock location bs) :
    image.narrowComment location = .ok (Utf8.decodeRepaired (bs.takeWhile (· ≠ 0))) := by
  rw [narrowComment_eq, block_eq_ok_iff.mpr h]
  rfl

theorem wideComment_of_holds {bs : List UInt8} (h : image.HoldsBlock location bs) :
    image.wideComment location = Utf16.textOfUnits ((Utf16.units bs).takeWhile (· ≠ 0)) := by
  rw [wideComment_eq, block_eq_ok_iff.mpr h]
  rfl

/-- A narrow comment is read iff its bytes can be. -/
theorem exists_narrowComment_iff :
    (∃ text, image.narrowComment location = .ok text) ↔ ∃ bs, image.HoldsBlock location bs := by
  constructor
  · rintro ⟨text, h⟩
    rw [narrowComment_eq] at h
    obtain ⟨bs, hbs, -⟩ := bind_eq_ok_iff.mp h
    exact ⟨bs, block_eq_ok_iff.mp hbs⟩
  · rintro ⟨bs, hbs⟩
    exact ⟨_, narrowComment_of_holds hbs⟩

theorem nul_not_mem_narrowComment {text : String} (h : image.narrowComment location = .ok text) :
    '\x00' ∉ text.toList := by
  intro hnul
  obtain ⟨bs, hbs⟩ := exists_narrowComment_iff.mp ⟨text, h⟩
  rw [narrowComment_of_holds hbs] at h
  obtain rfl := Except.ok.inj h
  have hzero := (Utf8.repaired_decodeRepaired (bs.takeWhile (· ≠ 0))).zero_mem hnul
  exact absurd (List.mem_takeWhile_imp hzero) (by decide)

theorem nul_not_mem_wideComment {text : String} (h : image.wideComment location = .ok text) :
    '\x00' ∉ text.toList := by
  intro hnul
  rw [wideComment_eq] at h
  obtain ⟨bs, -, htext⟩ := bind_eq_ok_iff.mp h
  have hunits := Utf16.textOfUnits_eq_ok_iff.mp htext
  have hzero := EnvironmentBlock.zero_mem_encodeUnits hnul
  rw [← hunits] at hzero
  exact absurd (List.mem_takeWhile_imp hzero) (by decide)

end Image

/-- **Comments end at their first terminator and nowhere else.** A narrow comment is read iff its
bytes can be. Both comments are the text before the first unit of theirs that is NUL, where units
are bytes and pairs of bytes: narrow text is repaired, and wide text is decoded. So what is behind a
terminator counts for nothing, every text without NUL is read back from its bytes, whether it is
terminated or not, and no text that is read has a NUL. -/
theorem Scan.comments_end_at_first_nul (image : Image) (location : Location) (position : Nat) :
    ((∃ text, (narrowComment image location).runFrom position = .ok text) ↔
        ∃ bs, image.HoldsBlock location bs) ∧
      (∀ bs, image.HoldsBlock location bs →
        (∃ count text, CutAt 1 bs count ∧ Utf8.Repaired (bs.take count) text.toList ∧
          (narrowComment image location).runFrom position = .ok text) ∧
        (∃ count, CutAt 2 bs count ∧
          (wideComment image location).runFrom position = Utf16.decode (bs.take (2 * count))) ∧
        ∀ text : String, '\x00' ∉ text.toList →
          (Utf8.StoredIn text bs →
            (narrowComment image location).runFrom position = .ok text) ∧
          (Utf16.StoredIn text bs →
            (wideComment image location).runFrom position = .ok text)) ∧
      (∀ text, (narrowComment image location).runFrom position = .ok text →
        '\x00' ∉ text.toList) ∧
      ∀ text, (wideComment image location).runFrom position = .ok text →
        '\x00' ∉ text.toList := by
  simp only [runFrom_eq_of_gives (gives_narrowComment image location),
    runFrom_eq_of_gives (gives_wideComment image location)]
  refine ⟨Image.exists_narrowComment_iff, fun bs hbs => ⟨?_, ?_, fun text htext => ⟨?_, ?_⟩⟩,
    fun text => Image.nul_not_mem_narrowComment, fun text => Image.nul_not_mem_wideComment⟩
  · obtain ⟨count, hcut⟩ := exists_cutAt Nat.one_pos bs
    rw [Image.narrowComment_of_holds hbs, hcut.takeWhile_eq]
    exact ⟨count, _, hcut, Utf8.repaired_decodeRepaired _, rfl⟩
  · obtain ⟨count, hcut⟩ := exists_cutAt Nat.two_pos bs
    rw [Image.wideComment_of_holds hbs, Utf16.decode_of_cutAt hcut]
    exact ⟨count, hcut, rfl⟩
  · intro hstored
    rw [Image.narrowComment_of_holds hbs, hstored.takeWhile_eq htext,
      Utf8.decodeRepaired_encodeBytes, String.ofList_toList]
  · intro hstored
    rw [Image.wideComment_of_holds hbs, Utf16.textOfUnits_eq_ok_iff]
    exact hstored.takeWhile_units_eq htext

/-- In both wide comments the high byte of one unit and the low byte of the next one are zero. The
first comment is terminated, with half a surrogate and an odd byte behind it, and the second one
is not terminated but has an odd byte. As narrow comments they end at their first zero byte, and
bytes that are no UTF-8 are replaced in the third one. -/
theorem Scan.comments_end_at_first_nul_of_straddling :
    let wide : List UInt8 := [0x41, 0, 0, 1];
    let image : Image := ⟨⟨(wide ++ [0, 0, 0, 0xd8, 0xff] ++ wide ++ [7]
      ++ [0xe2, 0x82, 0x42, 0, 0xff]).toArray⟩⟩;
    (wideComment image ⟨9, 0⟩).runFrom 3 = .ok "A\u0100" ∧
      (narrowComment image ⟨9, 0⟩).runFrom 3 = .ok "A" ∧
      (wideComment image ⟨5, 9⟩).runFrom 3 = .ok "A\u0100" ∧
      (narrowComment image ⟨5, 14⟩).runFrom 3 = .ok "\uFFFDB" := by
  intro wide image
  have hterminated : image.HoldsBlock ⟨9, 0⟩ (wide ++ [0, 0, 0, 0xd8, 0xff]) := by
    decide +kernel
  have hodd : image.HoldsBlock ⟨5, 9⟩ (wide ++ [7]) := by decide +kernel
  obtain ⟨-, -, htexts⟩ := (comments_end_at_first_nul image ⟨9, 0⟩ 3).2.1 _ hterminated
  obtain ⟨-, -, hoddTexts⟩ := (comments_end_at_first_nul image ⟨5, 9⟩ 3).2.1 _ hodd
  refine ⟨(htexts "A\u0100" (by decide)).2 (.inr (.inr ⟨[0, 0xd8, 0xff], by decide +kernel⟩)),
    (htexts "A" (by decide)).1 (.inr ⟨[0, 1, 0, 0, 0, 0xd8, 0xff], by decide +kernel⟩),
    (hoddTexts "A\u0100" (by decide)).2 (.inr (.inl ⟨7, by decide +kernel⟩)), ?_⟩
  decide +kernel

end Minidump
