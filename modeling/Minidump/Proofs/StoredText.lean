import Minidump.Proofs.Surrogates
import Minidump.Proofs.Failure

/-!
# Texts of a file

A file stores a text as the number of its bytes, in 32 bits, and the bytes behind it. What is
read at an offset is a text iff the file holds that text there, in its one written form; a
file can fail to hold a text because it ends too early, and then the read says so, or because
the bytes that it does hold are not well-formed.

- `Image.HoldsText` — a text lies at an offset of the file;
- `Image.textAt_of_short`, `Image.textAt_of_length` — what a read at an offset comes to, by
  whether the length is there;
- `Image.HoldsString`, `Image.textAt_of_holdsString` — bytes that need not be well-formed, and
  that the read depends on nothing else;
- `Image.textAt_eq_ok_iff`, `Image.textAt_eq_truncated_iff` — when it gives a text, and when
  it finds the end of the file;
- `Image.texts_exactly_encodings` — bytes, and files, are read as texts iff they are the
  encodings of these texts.
-/

namespace Minidump

namespace Image

/-- A text lies at an offset: the number of the bytes that it is written with, which has to
fit into 32 bits, and these bytes. -/
structure HoldsText (image : Image) (offset : Nat) (text : String) : Prop where
  fits : (Utf16.encodeBytes text.toList).length < 2 ^ 32
  bytes : image.window? offset (4 + (Utf16.encodeBytes text.toList).length) =
    some (LittleEndian.bytes 4 (Utf16.encodeBytes text.toList).length
      ++ Utf16.encodeBytes text.toList)

variable {image : Image} {offset : Nat}

/-! ## The length -/

/-- The word at an offset is the number that its four bytes stand for. -/
theorem wordAt_of_window? {bs : List UInt8} (h : image.window? offset 4 = some bs) :
    image.wordAt offset = LittleEndian.value bs := by
  obtain ⟨-, rfl⟩ := window?_eq_some_iff.mp h
  simp only [wordAt, ByteArray.data_extract, Array.toList_extract, List.extract_eq_take_drop,
    Nat.add_sub_cancel_left]

/-- A word that is in the file is written there as the number that it is. -/
theorem window?_wordAt (h : offset + 4 ≤ image.size) :
    image.window? offset 4 = some (LittleEndian.bytes 4 (image.wordAt offset)) := by
  have hwindow := window?_eq_some_iff.mpr ⟨h, rfl⟩
  rw [wordAt_of_window? hwindow, hwindow]
  have hbytes := LittleEndian.bytes_value ((image.bytes.data.toList.drop offset).take 4)
  rw [length_of_window? hwindow] at hbytes
  rw [hbytes]

theorem read_u32_of_le (h : offset + 4 ≤ image.size) :
    ∃ word, image.read .u32 offset = .ok word ∧ word.toNat = image.wordAt offset := by
  have hwindow : image.window? offset Layout.u32.size = _ := window?_wordAt h
  unfold read
  rw [hwindow]
  refine ⟨_, rfl, ?_⟩
  rw [toNat_decode_u32, List.take_of_length_le (LittleEndian.length_bytes _ _).le]
  exact LittleEndian.value_bytes (image.wordAt_lt offset)

theorem textAt_of_short (h : image.size < offset + 4) :
    image.textAt offset = .error (.truncated offset 4) := by
  have hread : image.read .u32 offset = .error (.truncated offset 4) :=
    read_eq_error_iff.mpr ⟨h, rfl⟩
  rw [textAt, hread]
  rfl

theorem textAt_of_length (h : offset + 4 ≤ image.size) :
    image.textAt offset
      = image.readBytes (offset + 4) (image.wordAt offset) >>= Utf16.decode := by
  obtain ⟨word, hread, hword⟩ := read_u32_of_le h
  rw [textAt, hread, ← hword]
  rfl

/-! ## The text -/

/-- A string of bytes lies at an offset: their number, which has to fit into 32 bits, and the
bytes, whether they are a text or not. -/
structure HoldsString (image : Image) (offset : Nat) (bs : List UInt8) : Prop where
  fits : bs.length < 2 ^ 32
  bytes : image.window? offset (4 + bs.length) = some (LittleEndian.bytes 4 bs.length ++ bs)

/-- What is read of a string depends on its bytes alone. -/
theorem textAt_of_holdsString {bs : List UInt8} (h : image.HoldsString offset bs) :
    image.textAt offset = Utf16.decode bs := by
  obtain ⟨hfits, hbytes⟩ := h
  obtain ⟨front, back, hfront, hback, heq⟩ := window?_add_eq_some_iff.mp hbytes
  obtain ⟨rfl, rfl⟩ := List.append_inj heq (by
    rw [LittleEndian.length_bytes, length_of_window? hfront])
  have hword := wordAt_of_window? hfront
  rw [LittleEndian.value_bytes hfits] at hword
  rw [textAt_of_length (window?_eq_some_iff.mp hfront).1, hword, readBytes_of_window? hback]
  rfl

/-- A text is read at an offset iff it lies there. -/
theorem textAt_eq_ok_iff {text : String} :
    image.textAt offset = .ok text ↔ image.HoldsText offset text := by
  constructor
  · intro h
    by_cases hlength : offset + 4 ≤ image.size
    · rw [textAt_of_length hlength, bind_eq_ok_iff] at h
      obtain ⟨bs, hbytes, hdecode⟩ := h
      rw [Utf16.decode_eq_ok_iff] at hdecode
      subst hdecode
      have hword := length_of_readBytes hbytes
      refine ⟨hword ▸ image.wordAt_lt offset, ?_⟩
      refine window?_add_eq_some_iff.mpr ⟨_, _, hword ▸ window?_wordAt hlength, ?_, rfl⟩
      -- no bytes can be read anywhere, but here they would begin inside the file
      rcases of_readBytes hbytes with ⟨hzero, hnil⟩ | ⟨hfits, hbs⟩
      · rw [hnil]
        exact window?_eq_some_iff.mpr ⟨hlength, rfl⟩
      · rw [hword]
        refine window?_eq_some_iff.mpr ⟨hfits, hbs.trans ?_⟩
        rw [Array.toList_extract, List.extract_eq_take_drop, Nat.add_sub_cancel_left]
    · rw [textAt_of_short (Nat.lt_of_not_le hlength)] at h
      cases h
  · rintro ⟨hfits, hbytes⟩
    rw [textAt_of_holdsString ⟨hfits, hbytes⟩]
    exact Utf16.decode_eq_ok_iff.mpr rfl

/-- The read finds the end of the file iff the length is not wholly in the file, or it is
and the file ends before as many bytes behind it. -/
theorem textAt_eq_truncated_iff {found wanted : Nat} :
    image.textAt offset = .error (.truncated found wanted) ↔
      (image.size < offset + 4 ∧ found = offset ∧ wanted = 4) ∨
      (offset + 4 ≤ image.size ∧ image.wordAt offset ≠ 0 ∧
        image.size < offset + 4 + image.wordAt offset ∧
        found = offset + 4 ∧ wanted = image.wordAt offset) := by
  by_cases hlength : offset + 4 ≤ image.size
  · rw [textAt_of_length hlength, bind_eq_error_iff, readBytes_eq_error_iff]
    constructor
    · rintro (⟨hzero, hshort, hcause⟩ | ⟨bs, -, h⟩)
      · cases hcause
        exact .inr ⟨hlength, hzero, hshort, rfl, rfl⟩
      · -- bytes that are there are refused for other causes
        rcases Utf16.decode_eq_error_iff.mp h with ⟨-, hcause⟩ | ⟨-, -, hcause⟩ <;> cases hcause
    · rintro (⟨hshort, -⟩ | ⟨-, hzero, hshort, rfl, rfl⟩)
      · exact absurd hlength (Nat.not_le.mpr hshort)
      · exact .inl ⟨hzero, hshort, rfl⟩
  · have hshort := Nat.lt_of_not_le hlength
    rw [textAt_of_short hshort]
    constructor
    · intro h
      cases h
      exact .inl ⟨hshort, rfl, rfl⟩
    · rintro (⟨-, rfl, rfl⟩ | ⟨h, -⟩)
      · rfl
      · exact absurd h hlength

/-- **Texts are read from their encodings and from nothing else.** A list of bytes is read as
a text iff it is the text's encoding, so that each text has one form; it is refused for its
length iff that is odd, and else iff one of its surrogates is not part of a pair. From every
position in a file on, the text at an offset is read iff the file holds there the number of
bytes of its encoding, in 32 bits, and the encoding. The read is cut short iff that number, or
as many bytes as it says, are not wholly in the file; if the number is there and zero, it
never is. -/
theorem texts_exactly_encodings (image : Image) (offset position : Nat) :
    (∀ (bs : List UInt8) (text : String),
      Utf16.decode bs = .ok text ↔ bs = Utf16.encodeBytes text.toList) ∧
    (∀ (bs : List UInt8) (cause : Error),
      Utf16.decode bs = .error cause ↔
        (bs.length % 2 = 1 ∧ cause = .oddLength bs.length) ∨
        (bs.length % 2 = 0 ∧ (∃ index, Utf16.IsLone (Utf16.units bs) index) ∧
          cause = .loneSurrogate)) ∧
    (∀ text, (Scan.textAt image offset).runFrom position = .ok text ↔
      image.HoldsText offset text) ∧
    ∀ found wanted,
      (Scan.textAt image offset).runFrom position = .error (.truncated found wanted) ↔
        (image.size < offset + 4 ∧ found = offset ∧ wanted = 4) ∨
        (offset + 4 ≤ image.size ∧ image.wordAt offset ≠ 0 ∧
          image.size < offset + 4 + image.wordAt offset ∧
          found = offset + 4 ∧ wanted = image.wordAt offset) := by
  have hscan : (Scan.textAt image offset).runFrom position = image.textAt offset :=
    Scan.gives_textAt image offset position
  rw [hscan]
  exact ⟨fun _ _ => Utf16.decode_eq_ok_iff, fun _ _ => Utf16.decode_eq_error_iff,
    fun _ => textAt_eq_ok_iff, fun _ _ => textAt_eq_truncated_iff⟩

end Image

end Minidump
