import Minidump.Proofs.Correspondence
import Minidump.Proofs.Reads

/-!
# What makes a parse fail

A parse needs the header, the signature in it, and every entry of the stream directory.
That is all: whether it succeeds is decided by the length of the file and three of its
words, before anything is said about what streams hold.

- `Image.wordAt` — a 32-bit number of the file;
- `Image.Fatal` — the causes why a file cannot be parsed;
- `Image.header_cases` — the header is there, or one of two things is wrong with it;
- `Image.exists_entries_iff`, `Image.entries_eq_error_iff` — when the directory is there, and
  which of its entries is missed first if it is not;
- `Image.fails_iff_fatal` — a parse succeeds or fails, from every position, for these causes
  and no others.
-/

namespace Minidump

namespace Image

/-- The 32-bit number at an offset. Bytes behind the end of the file are not counted. -/
def wordAt (image : Image) (offset : Nat) : Nat :=
  LittleEndian.value (image.bytes.extract offset (offset + 4)).data.toList

/-- The number that starts every dump, the letters `MDMP`. -/
def signature : Nat := 0x504d444d

/-- The causes why a file cannot be parsed: it is shorter than a header, or it has another
signature, or the directory that its header announces has an entry, the first such one,
that is not wholly in the file. -/
inductive Fatal (image : Image) : Error → Prop
  | shortHeader (hsize : image.size < 32) : Fatal image (.truncated 0 32)
  | badSignature (hsize : 32 ≤ image.size) (hsignature : image.wordAt 0 ≠ signature) :
    Fatal image (.badSignature (UInt32.ofNat (image.wordAt 0)))
  | missingEntry (hsize : 32 ≤ image.size) (hsignature : image.wordAt 0 = signature) (index : Nat)
    (hindex : index < image.wordAt 8)
    (hmissing : image.size < image.wordAt 12 + 12 * index + 12)
    (hearlier : ∀ earlier < index, image.wordAt 12 + 12 * earlier + 12 ≤ image.size) :
    Fatal image (.truncated (image.wordAt 12 + 12 * index) 12)

variable {image : Image}

theorem wordAt_lt (image : Image) (offset : Nat) : image.wordAt offset < 2 ^ 32 := by
  have hlength : (image.bytes.extract offset (offset + 4)).data.toList.length ≤ 4 := by
    simp only [ByteArray.data_extract, Array.length_toList, Array.size_extract]
    omega
  exact LittleEndian.value_lt_capacity hlength

/-! ## The header -/

theorem decode_u32 (bs : List UInt8) :
    Layout.u32.decode bs = UInt32.ofNat (LittleEndian.value (bs.take 4)) :=
  rfl

theorem toNat_decode_u32 (bs : List UInt8) :
    (Layout.u32.decode bs).toNat = LittleEndian.value (bs.take 4) := by
  have hlt : LittleEndian.value (bs.take 4) < 2 ^ 32 :=
    LittleEndian.value_lt_capacity (List.length_take_le 4 bs)
  rw [decode_u32, UInt32.toNat_ofNat_of_lt' hlt]

/-- A word of the first record of a file is a word of the file. -/
theorem toNat_decode_drop_extract {offset length : Nat} (h : offset + 4 ≤ length) :
    (Layout.u32.decode ((image.bytes.extract 0 length).data.toList.drop offset)).toNat
      = image.wordAt offset := by
  rw [toNat_decode_u32]
  unfold wordAt
  congr 1
  simp only [ByteArray.data_extract, Array.toList_extract, List.extract_eq_take_drop,
    List.drop_zero, List.drop_take, List.take_take]
  rw [Nat.min_eq_left (by omega), Nat.add_sub_cancel_left]

theorem read_header (h : 32 ≤ image.size) :
    ∃ header, image.read Header.layout 0 = .ok header ∧
      header.signature.toNat = image.wordAt 0 ∧
      header.streamCount.toNat = image.wordAt 8 ∧
      header.directoryOffset.toNat = image.wordAt 12 := by
  unfold read window?
  rw [if_pos (show 0 + Header.layout.size ≤ image.size from h)]
  exact ⟨_, rfl, toNat_decode_drop_extract (show 0 + 4 ≤ 32 by decide),
    toNat_decode_drop_extract (show 8 + 4 ≤ 32 by decide),
    toNat_decode_drop_extract (show 12 + 4 ≤ 32 by decide)⟩

/-- The header is there, with what the words of the file say, or there is one of two
causes why it is not. -/
theorem header_cases (image : Image) :
    (image.size < 32 ∧ image.header = .error (.truncated 0 32)) ∨
    (32 ≤ image.size ∧ image.wordAt 0 ≠ signature ∧
      image.header = .error (.badSignature (UInt32.ofNat (image.wordAt 0)))) ∨
    (32 ≤ image.size ∧ image.wordAt 0 = signature ∧
      ∃ header, image.header = .ok header ∧ header.streamCount.toNat = image.wordAt 8 ∧
        header.directoryOffset.toNat = image.wordAt 12) := by
  by_cases hsize : 32 ≤ image.size
  · obtain ⟨header, hread, hsignature, hcount, hdirectory⟩ := read_header hsize
    unfold Image.header
    rw [hread]
    show _ ∨ (_ ∧ _ ∧ (if header.signature = Header.expectedSignature then _ else _) = _) ∨
      (_ ∧ _ ∧ ∃ found, (if header.signature = Header.expectedSignature then _ else _) = _ ∧ _)
    by_cases hexpected : header.signature = Header.expectedSignature
    · rw [if_pos hexpected]
      have hword : image.wordAt 0 = signature := by rw [← hsignature, hexpected]; rfl
      exact .inr (.inr ⟨hsize, hword, header, rfl, hcount, hdirectory⟩)
    · rw [if_neg hexpected]
      have hword : image.wordAt 0 ≠ signature := fun hword =>
        hexpected (UInt32.toNat_inj.mp (hsignature.trans hword))
      refine .inr (.inl ⟨hsize, hword, ?_⟩)
      rw [← hsignature, UInt32.ofNat_toNat]
      rfl
  · have hread : image.read Header.layout 0 = .error (.truncated 0 32) :=
      read_eq_error_iff.mpr ⟨Nat.lt_of_not_le hsize, rfl⟩
    unfold Image.header
    rw [hread]
    exact .inl ⟨Nat.lt_of_not_le hsize, rfl⟩

/-! ## The directory -/

theorem exists_entries_iff {header : Header} :
    (∃ entries, image.entries header = .ok entries) ↔
      header.streamCount.toNat = 0 ∨
        header.directoryOffset.toNat + 12 * header.streamCount.toNat ≤ image.size := by
  unfold Image.entries
  rw [exists_mapM_iff]
  simp only [exists_read_iff, List.mem_range]
  show (∀ index < header.streamCount.toNat,
    header.directoryOffset.toNat + index * 12 + 12 ≤ image.size) ↔ _
  constructor
  · intro h
    by_cases hcount : header.streamCount.toNat = 0
    · exact .inl hcount
    · -- the last entry ends where the directory ends
      have hlast := h (header.streamCount.toNat - 1) (by omega)
      exact .inr (by omega)
  · intro h index hindex
    omega

theorem entries_eq_error_iff {header : Header} {cause : Error} :
    image.entries header = .error cause ↔
      ∃ index < header.streamCount.toNat,
        image.size < header.directoryOffset.toNat + 12 * index + 12 ∧
        cause = .truncated (header.directoryOffset.toNat + 12 * index) 12 ∧
        ∀ earlier < index, header.directoryOffset.toNat + 12 * earlier + 12 ≤ image.size := by
  unfold Image.entries
  rw [mapM_eq_error_iff]
  simp only [List.getElem?_eq_some_iff, List.length_range, List.getElem_range, read_eq_error_iff,
    exists_read_iff, Nat.mul_comm _ DirectoryEntry.layout.size]
  constructor
  · rintro ⟨index, _, ⟨hindex, rfl⟩, ⟨hmissing, hcause⟩, hearlier⟩
    exact ⟨index, hindex, hmissing, hcause, fun earlier hlt =>
      hearlier earlier hlt earlier ⟨Nat.lt_trans hlt hindex, rfl⟩⟩
  · rintro ⟨index, hindex, hmissing, hcause, hearlier⟩
    refine ⟨index, index, ⟨hindex, rfl⟩, ⟨hmissing, hcause⟩, ?_⟩
    rintro earlier hlt _ ⟨-, rfl⟩
    exact hearlier earlier hlt

/-! ## The whole parse -/

theorem exists_dump_iff :
    (∃ dump, image.dump = .ok dump) ↔
      32 ≤ image.size ∧ image.wordAt 0 = signature ∧
        (image.wordAt 8 = 0 ∨ image.wordAt 12 + 12 * image.wordAt 8 ≤ image.size) := by
  unfold Image.dump
  simp only [bind_eq_ok_iff]
  rcases header_cases image with ⟨hsize, hheader⟩ | ⟨hsize, hword, hheader⟩ |
    ⟨hsize, hword, header, hheader, hcount, hdirectory⟩
  · rw [hheader]
    exact ⟨fun ⟨_, _, h, _⟩ => (nomatch h), fun h => absurd h.1 (Nat.not_le.mpr hsize)⟩
  · rw [hheader]
    exact ⟨fun ⟨_, _, h, _⟩ => (nomatch h), fun h => absurd h.2.1 hword⟩
  · rw [← hcount, ← hdirectory, ← exists_entries_iff]
    constructor
    · rintro ⟨_, found, hfound, entries, hentries, -⟩
      obtain rfl : header = found := Except.ok.inj (hheader.symm.trans hfound)
      exact ⟨hsize, hword, entries, hentries⟩
    · rintro ⟨-, -, entries, hentries⟩
      exact ⟨_, header, hheader, entries, hentries, rfl⟩

theorem dump_eq_error_iff {cause : Error} : image.dump = .error cause ↔ image.Fatal cause := by
  unfold Image.dump
  rw [bind_eq_error_iff]
  rcases header_cases image with ⟨hsize, hheader⟩ | ⟨hsize, hword, hheader⟩ |
    ⟨hsize, hword, header, hheader, hcount, hdirectory⟩
  · rw [hheader]
    constructor
    · rintro (h | ⟨_, h, -⟩) <;> cases h
      exact .shortHeader hsize
    · rintro (_ | ⟨hlong, -⟩ | ⟨hlong, -⟩)
      · exact .inl rfl
      · exact absurd hlong (Nat.not_le.mpr hsize)
      · exact absurd hlong (Nat.not_le.mpr hsize)
  · rw [hheader]
    constructor
    · rintro (h | ⟨_, h, -⟩) <;> cases h
      exact .badSignature hsize hword
    · rintro (hshort | _ | ⟨-, hsignature⟩)
      · exact absurd hsize (Nat.not_le.mpr hshort)
      · exact .inl rfl
      · exact absurd hsignature hword
  · constructor
    · rintro (h | ⟨found, hfound, h⟩)
      · cases hheader.symm.trans h
      · obtain rfl : header = found := Except.ok.inj (hheader.symm.trans hfound)
        -- what follows the directory does not fail
        obtain h | ⟨_, -, h⟩ := bind_eq_error_iff.mp h
        · obtain ⟨index, hindex, hmissing, rfl, hearlier⟩ := entries_eq_error_iff.mp h
          rw [hcount] at hindex
          rw [hdirectory] at hmissing hearlier ⊢
          exact .missingEntry hsize hword index hindex hmissing hearlier
        · cases h
    · rintro (hshort | ⟨-, hsignature⟩ | ⟨-, -, index, hindex, hmissing, hearlier⟩)
      · exact absurd hsize (Nat.not_le.mpr hshort)
      · exact absurd hword hsignature
      · rw [← hcount] at hindex
        rw [← hdirectory] at hmissing hearlier ⊢
        refine .inr ⟨header, hheader, bind_eq_error_iff.mpr (.inl ?_)⟩
        exact entries_eq_error_iff.mpr ⟨index, hindex, hmissing, rfl, hearlier⟩

/-- **Only a bad header or directory is fatal.** From every position in the file on, a parse
succeeds iff the file is as long as a header, has the signature in it, and holds the whole
directory, if there is one. Otherwise it fails for the first of these that is missing. So
nothing that a stream, a register context or the memory of the process holds makes a parse
fail, and neither does a stream of an unknown kind or of one without a decoder. The end of
the directory is an offset of 64 bits. -/
theorem fails_iff_fatal (image : Image) (position : Nat) :
    ((∃ dump, (Scan.dump image).runFrom position = .ok dump) ↔
      32 ≤ image.size ∧ image.wordAt 0 = signature ∧
        (image.wordAt 8 = 0 ∨ image.wordAt 12 + 12 * image.wordAt 8 ≤ image.size)) ∧
    (∀ cause, (Scan.dump image).runFrom position = .error cause ↔ image.Fatal cause) ∧
    (¬ ∃ cause : Error, cause.ConcernsKind ∧ (Scan.dump image).runFrom position = .error cause) ∧
    image.wordAt 12 + 12 * image.wordAt 8 < 2 ^ 64 := by
  have hdump : (Scan.dump image).runFrom position = image.dump := Scan.gives_dump image position
  rw [hdump]
  refine ⟨exists_dump_iff, fun cause => dump_eq_error_iff, ?_, ?_⟩
  · rintro ⟨cause, hkind, h⟩
    -- none of the fatal causes has to do with the kind of a stream
    cases dump_eq_error_iff.mp h <;> exact hkind
  · have hdirectory := image.wordAt_lt 12
    have hcount := image.wordAt_lt 8
    omega

end Image

end Minidump
