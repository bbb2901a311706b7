import Minidump.Proofs.Reads
import Minidump.Proofs.RecordLayouts
import Minidump.Proofs.Scan

/-!
# Reading records

A record is read at an offset iff all its bytes are in the file, and what is read says which
bytes these are: the words of the record, one behind the other.

- `Image.read_eq_ok_iff`, `Image.window?_word` — what lies in the file where a record was read,
  as a whole and word by word;
- `RecordFormat` — a layout with the words that it stores and its size;
- `RecordFormat.StoredExactly`, `RecordFormat.ReadExactly` — records and their bytes correspond
  one to one, and a read gives the record whose bytes lie at an offset;
- `RecordKind` — the kinds of records that are read straight off the file;
- `RecordKind.decodes_exactly` — every kind is stored exactly and read exactly.
-/

namespace Minidump

namespace Image

variable {image : Image} {offset : Nat}

/-- A record is read at an offset iff its words lie there. -/
theorem read_eq_ok_iff {α : Type} {layout : Layout α} {words : α → List Word}
    (h : layout.Stores words) {a : α} :
    image.read layout offset = .ok a ↔
      image.window? offset layout.size = some (Word.bytesOf (words a)) := by
  unfold read
  cases hwindow : image.window? offset layout.size with
  | none => exact ⟨fun h => (nomatch h), fun h => (nomatch h)⟩
  | some bs =>
    constructor
    · intro hread
      cases hread
      rw [h.bytesOf_decode (length_of_window? hwindow)]
    · intro hbytes
      cases hbytes
      exact congrArg Except.ok (h.decode_bytesOf a)

/-- Where words lie in the file, each of them lies behind those before it. -/
theorem window?_word {before after : List Word} {word : Word}
    (h : image.window? offset (Word.totalSize (before ++ word :: after))
      = some (Word.bytesOf (before ++ word :: after))) :
    image.window? (offset + Word.totalSize before) word.size = some word.bytes := by
  rw [Word.totalSize_append, Word.totalSize_cons, Word.bytesOf_append, Word.bytesOf_cons] at h
  obtain ⟨front, back, hfront, hback, heq⟩ := window?_add_eq_some_iff.mp h
  obtain ⟨-, rfl⟩ := List.append_inj heq
    ((Word.length_bytesOf before).trans (length_of_window? hfront).symm)
  obtain ⟨middle, rest, hmiddle, -, heq⟩ := window?_add_eq_some_iff.mp hback
  obtain ⟨rfl, -⟩ := List.append_inj heq
    ((Word.length_bytes word).trans (length_of_window? hmiddle).symm)
  exact hmiddle

end Image

/-! ## Formats -/

/-- How a type of records is stored: its layout, the numbers that a record consists of, in
their order in the file, and how many bytes it takes. -/
structure RecordFormat where
  {Value : Type}
  layout : Layout Value
  words : Value → List Word
  size : Nat
  stores : layout.Stores words := by infer_instance
  size_layout : layout.size = size := by rfl

namespace RecordFormat

/-- A format stores records as their words and as nothing else: no byte is left out, none is
used twice, and records and lists of as many bytes correspond one to one. -/
structure StoredExactly (format : RecordFormat) : Prop where
  size_eq : format.layout.size = format.size
  totalSize_eq : ∀ a, Word.totalSize (format.words a) = format.size
  encode_eq : ∀ a, format.layout.encode a = Word.bytesOf (format.words a)
  decode_encode : ∀ a, format.layout.decode (format.layout.encode a) = a
  encode_decode : ∀ bs : List UInt8, bs.length = format.size →
    format.layout.encode (format.layout.decode bs) = bs

/-- A result is that of reading a record in a format at an offset: it is there iff all bytes
are in the file, it is the record whose words lie there, each behind those before it, and the
only cause of a failure is the end of the file. -/
structure ReadExactly (format : RecordFormat) (image : Image) (offset : Nat)
    (result : Result format.Value) : Prop where
  exists_ok_iff : (∃ a, result = .ok a) ↔ offset + format.size ≤ image.size
  eq_error_iff : ∀ cause, result = .error cause ↔
    image.size < offset + format.size ∧ cause = .truncated offset format.size
  eq_ok_iff : ∀ a, result = .ok a ↔
    image.window? offset format.size = some (Word.bytesOf (format.words a))
  window?_word : ∀ a before word after, result = .ok a →
    format.words a = before ++ word :: after →
      image.window? (offset + Word.totalSize before) word.size = some word.bytes

theorem storedExactly (format : RecordFormat) : format.StoredExactly where
  size_eq := format.size_layout
  totalSize_eq a := (format.stores.size_eq a).trans format.size_layout
  encode_eq := format.stores.encode_eq
  decode_encode a := by rw [format.stores.encode_eq, format.stores.decode_bytesOf]
  encode_decode bs hlength := by
    have hsize : bs.length = format.layout.size := hlength.trans format.size_layout.symm
    rw [format.stores.encode_eq, format.stores.bytesOf_decode hsize]

theorem readExactly (format : RecordFormat) (image : Image) (offset : Nat) :
    format.ReadExactly image offset (image.read format.layout offset) where
  exists_ok_iff := by rw [Image.exists_read_iff, format.size_layout]
  eq_error_iff _ := by rw [Image.read_eq_error_iff, format.size_layout]
  eq_ok_iff _ := by rw [Image.read_eq_ok_iff format.stores, format.size_layout]
  window?_word a before word after hread hwords := by
    have hwindow := (Image.read_eq_ok_iff format.stores).mp hread
    rw [← format.stores.size_eq a, hwords] at hwindow
    exact Image.window?_word hwindow

end RecordFormat

/-! ## Kinds of records -/

/-- The kinds of records that are read straight off the file. -/
inductive RecordKind where
  | u8
  | u16
  | u32
  | u64
  | header
  | location
  | directoryEntry
  | systemRecord
  | exceptionRecord
  | exceptionStream
  | memoryInfo
  | memoryInfoHeader
  | memory64Header
  | memoryDescriptor64
  | threadListHeader
  | memoryDescriptor
  | threadEntry
  | threadExEntry
  | threadInfoHeader
  | threadInfo
  | moduleListHeader
  | fileVersion
  | moduleEntry
  | miscRecord
  | extendedMiscRecord
  | unloadedModuleHeader
  | unloadedModuleEntry
  | handleTableHeader
  | handleDescriptor
  | floatSaveX86
  | contextX86
  | contextX64

namespace RecordKind

/-- The format of a kind of record. The headers of different lists can have the same. -/
def format : RecordKind → RecordFormat
  | .u8 => { layout := .u8, words := fun n => [.u8 n], size := 1 }
  | .u16 => { layout := .u16, words := fun n => [.u16 n], size := 2 }
  | .u32 => { layout := .u32, words := fun n => [.u32 n], size := 4 }
  | .u64 => { layout := .u64, words := fun n => [.u64 n], size := 8 }
  | .header => { layout := Header.layout, words := Header.words, size := 32 }
  | .location => { layout := Location.layout, words := Location.words, size := 8 }
  | .directoryEntry =>
    { layout := DirectoryEntry.layout, words := DirectoryEntry.words, size := 12 }
  | .systemRecord => { layout := SystemRecord.layout, words := SystemRecord.words, size := 32 }
  | .exceptionRecord =>
    { layout := ExceptionRecord.layout, words := ExceptionRecord.words, size := 152 }
  | .exceptionStream =>
    { layout := ExceptionStream.layout, words := ExceptionStream.words, size := 168 }
  | .memoryInfo => { layout := MemoryInfo.layout, words := MemoryInfo.words, size := 48 }
  | .memoryInfoHeader =>
    { layout := MemoryInfoHeader.layout, words := MemoryInfoHeader.words, size := 16 }
  | .memory64Header =>
    { layout := Memory64Header.layout, words := Memory64Header.words, size := 16 }
  | .memoryDescriptor64 =>
    { layout := MemoryDescriptor64.layout, words := MemoryDescriptor64.words, size := 16 }
  | .threadListHeader => { layout := CountHeader.layout, words := CountHeader.words, size := 4 }
  | .memoryDescriptor =>
    { layout := MemoryDescriptor.layout, words := MemoryDescriptor.words, size := 16 }
  | .threadEntry => { layout := ThreadEntry.layout, words := ThreadEntry.words, size := 48 }
  | .threadExEntry => { layout := ThreadExEntry.layout, words := ThreadExEntry.words, size := 64 }
  | .threadInfoHeader => { layout := TableHeader.layout, words := TableHeader.words, size := 12 }
  | .threadInfo => { layout := ThreadInfo.layout, words := ThreadInfo.words, size := 64 }
  | .moduleListHeader => { layout := CountHeader.layout, words := CountHeader.words, size := 4 }
  | .fileVersion => { layout := FileVersion.layout, words := FileVersion.words, size := 52 }
  | .moduleEntry => { layout := ModuleEntry.layout, words := ModuleEntry.words, size := 108 }
  | .miscRecord => { layout := MiscRecord.layout, words := MiscRecord.words, size := 24 }
  | .extendedMiscRecord =>
    { layout := ExtendedMiscRecord.layout, words := ExtendedMiscRecord.words, size := 44 }
  | .unloadedModuleHeader =>
    { layout := TableHeader.layout, words := TableHeader.words, size := 12 }
  | .unloadedModuleEntry =>
    { layout := UnloadedModuleEntry.layout, words := UnloadedModuleEntry.words, size := 24 }
  | .handleTableHeader =>
    { layout := HandleTableHeader.layout, words := HandleTableHeader.words, size := 16 }
  | .handleDescriptor =>
    { layout := HandleDescriptor.layout, words := HandleDescriptor.words, size := 32 }
  | .floatSaveX86 => { layout := FloatSaveX86.layout, words := FloatSaveX86.words, size := 112 }
  | .contextX86 => { layout := ContextX86.layout, words := ContextX86.words, size := 716 }
  | .contextX64 => { layout := ContextX64.layout, words := ContextX64.words, size := 1232 }

/-- **Records are decoded from their bytes one to one.** For each of the kinds, the size is
the sum of the sizes of the words, encoding writes the words in their order, lowest byte first
and nothing between them, and encoding and decoding undo each other, on every record and on
every list of as many bytes. From every position in a file on, a record is read at an offset
iff all its bytes are in the file, and it is the one whose encoding lies there; otherwise the
read says from where on how many bytes are missing. -/
theorem decodes_exactly (kind : RecordKind) :
    kind.format.StoredExactly ∧
      ∀ (image : Image) (offset position : Nat), kind.format.ReadExactly image offset
        ((Scan.recordAt image kind.format.layout offset).runFrom position) := by
  refine ⟨kind.format.storedExactly, fun image offset position => ?_⟩
  have hscan : (Scan.recordAt image kind.format.layout offset).runFrom position
      = image.read kind.format.layout offset :=
    Scan.gives_recordAt image kind.format.layout offset position
  rw [hscan]
  exact kind.format.readExactly image offset

example :
    let image : Image := ⟨⟨#[0xff, 4, 0, 0, 0, 8, 0, 0, 0, 0x30, 1, 0, 0]⟩⟩
    (Scan.recordAt image DirectoryEntry.layout 1).runFrom 0 = .ok ⟨4, ⟨8, 0x130⟩⟩ ∧
      (Scan.recordAt image DirectoryEntry.layout 2).runFrom 0 = .error (.truncated 2 12) := by
  decide +kernel

end RecordKind

end Minidump
