import Minidump.Proofs.Positional
import Minidump.Proofs.RecordReads

/-!
# How lists are stored

A stream that holds a list begins with a header, which says how many entries there are. Where
the first of them starts and how far they are apart is known for some lists, and for others the
header says it. `ListFormat.Holds` is what a file has to hold at a location so that it is the
list of given entries; it speaks of bytes at offsets only.

- `Image.HoldsRecord` — a record lies at an offset;
- `ListFormat` — the header and the entries of a list, and what the header says of them;
- `ListFormat.threads` to `ListFormat.handles` — the nine lists of a dump;
- `ListFormat.IsPacked` — the lists whose headers declare no sizes;
- `ListFormat.Holds`, `ListFormat.LaidOut` — a file holds the list of given entries, and its
  header is not shorter than what is known of it;
- `ListFormat.LaidOut.header_end_le`, `ListFormat.Holds.entry_end_le` — the header and the
  entries of a list are inside its stream;
- `ListFormat.holds_iff`, `ListFormat.exists_holds_iff` — lists as reads of the file.
-/

namespace Minidump

/-! ## Records -/

/-- A record lies at an offset: its words, one behind the other. -/
def Image.HoldsRecord (image : Image) (format : RecordFormat) (offset : Nat)
    (record : format.Value) : Prop :=
  image.window? offset format.size = some (Word.bytesOf (format.words record))

instance (image : Image) (format : RecordFormat) (offset : Nat) (record : format.Value) :
    Decidable (image.HoldsRecord format offset record) :=
  inferInstanceAs (Decidable (_ = _))

theorem Image.read_eq_ok_iff_holdsRecord {image : Image} {format : RecordFormat} {offset : Nat}
    {record : format.Value} :
    image.read format.layout offset = .ok record ↔ image.HoldsRecord format offset record := by
  rw [Image.read_eq_ok_iff format.stores, format.size_layout]
  rfl

/-- Bytes that are in the file are a record, whatever they are. -/
theorem Image.exists_holdsRecord_iff {image : Image} {format : RecordFormat} {offset : Nat} :
    (∃ record, image.HoldsRecord format offset record) ↔ offset + format.size ≤ image.size := by
  rw [← format.size_layout, ← Image.exists_read_iff]
  exact exists_congr fun record => Image.read_eq_ok_iff_holdsRecord.symm

/-- What lies at an offset is one record. -/
theorem Image.HoldsRecord.unique {image : Image} {format : RecordFormat} {offset : Nat}
    {record other : format.Value} (h : image.HoldsRecord format offset record)
    (hother : image.HoldsRecord format offset other) : record = other := by
  rw [← Image.read_eq_ok_iff_holdsRecord] at h hother
  exact Except.ok.inj (h.symm.trans hother)

/-! ## Formats -/

/-- How a stream stores a list. -/
structure ListFormat where
  header : RecordFormat
  entry : RecordFormat
  /-- How many entries there are. -/
  count : header.Value → Nat
  /-- How far behind the start of the stream the first entry starts. -/
  headerSize : header.Value → Nat
  /-- How far behind the start of an entry the next one starts. -/
  entrySize : header.Value → Nat

namespace ListFormat

/-- A header of a known size and then the entries, back to back. -/
def packed (header entry : RecordFormat) (count : header.Value → Nat) : ListFormat where
  header := header
  entry := entry
  count := count
  headerSize _ := header.size
  entrySize _ := entry.size

/-- A count and then the entries. -/
def counted (entry : RecordFormat) : ListFormat :=
  packed RecordKind.threadListHeader.format entry fun (header : CountHeader) => header.count.toNat

/-- A header that says where the entries start and how far they are apart. -/
def table (entry : RecordFormat) : ListFormat where
  header := RecordKind.threadInfoHeader.format
  entry := entry
  count := fun (header : TableHeader) => header.count.toNat
  headerSize := fun (header : TableHeader) => header.headerSize.toNat
  entrySize := fun (header : TableHeader) => header.entrySize.toNat

def threads : ListFormat := counted RecordKind.threadEntry.format

def threadsEx : ListFormat := counted RecordKind.threadExEntry.format

def modules : ListFormat := counted RecordKind.moduleEntry.format

def memory : ListFormat := counted RecordKind.memoryDescriptor.format

def memory64 : ListFormat :=
  packed RecordKind.memory64Header.format RecordKind.memoryDescriptor64.format
    fun (header : Memory64Header) => header.count.toNat

def threadInfo : ListFormat := table RecordKind.threadInfo.format

def unloadedModules : ListFormat := table RecordKind.unloadedModuleEntry.format

def memoryInfo : ListFormat where
  header := RecordKind.memoryInfoHeader.format
  entry := RecordKind.memoryInfo.format
  count := fun (header : MemoryInfoHeader) => header.count.toNat
  headerSize := fun (header : MemoryInfoHeader) => header.headerSize.toNat
  entrySize := fun (header : MemoryInfoHeader) => header.entrySize.toNat

def handles : ListFormat where
  header := RecordKind.handleTableHeader.format
  entry := RecordKind.handleDescriptor.format
  count := fun (header : HandleTableHeader) => header.count.toNat
  headerSize := fun (header : HandleTableHeader) => header.headerSize.toNat
  entrySize := fun (header : HandleTableHeader) => header.entrySize.toNat

/-- The header is as long as is known, and the entries follow each other at once. -/
structure IsPacked (format : ListFormat) : Prop where
  headerSize_eq : ∀ header, format.headerSize header = format.header.size
  entrySize_eq : ∀ header, format.entrySize header = format.entry.size

theorem isPacked_packed (header entry : RecordFormat) (count : header.Value → Nat) :
    (packed header entry count).IsPacked :=
  ⟨fun _ => rfl, fun _ => rfl⟩

theorem isPacked_counted (entry : RecordFormat) : (counted entry).IsPacked :=
  isPacked_packed _ _ _

theorem isPacked_memory64 : memory64.IsPacked :=
  isPacked_packed _ _ _

/-! ## Lists in a file -/

variable (format : ListFormat)

/-- The offset of the entry at an index. -/
def entryOffset (location : Location) (header : format.header.Value) (index : Nat) : Nat :=
  location.offset.toNat + format.headerSize header + index * format.entrySize header

/-- A file holds at a location the list of the given entries: the header, with their number,
and each of them at its own offset. An entry has room before the next one, and the stream has
room for them all. -/
structure Holds (image : Image) (location : Location) (header : format.header.Value)
    (entries : List format.entry.Value) : Prop where
  header_at : image.HoldsRecord format.header location.offset.toNat header
  length_eq : entries.length = format.count header
  entrySize_le : format.entry.size ≤ format.entrySize header
  in_stream :
    format.headerSize header + format.count header * format.entrySize header ≤ location.size.toNat
  entry_at : ∀ (index : Nat) (entry : format.entry.Value), entries[index]? = some entry →
    image.HoldsRecord format.entry (format.entryOffset location header index) entry

variable {format} {image : Image} {location : Location} {header : format.header.Value}
  {entries : List format.entry.Value}

instance : Decidable (format.Holds image location header entries) :=
  decidable_of_iff
    (image.HoldsRecord format.header location.offset.toNat header ∧
      entries.length = format.count header ∧ format.entry.size ≤ format.entrySize header ∧
      format.headerSize header + format.count header * format.entrySize header
        ≤ location.size.toNat ∧
      ∀ (index : Nat) (h : index < entries.length), image.HoldsRecord format.entry
        (format.entryOffset location header index) entries[index])
    ⟨fun ⟨hheader, hlength, hentry, hstream, hat⟩ => ⟨hheader, hlength, hentry, hstream,
        fun index _ hfound => by
          obtain ⟨hindex, rfl⟩ := List.getElem?_eq_some_iff.mp hfound
          exact hat index hindex⟩,
      fun ⟨hheader, hlength, hentry, hstream, hat⟩ => ⟨hheader, hlength, hentry, hstream,
        fun index hindex => hat index _ (List.getElem?_eq_getElem hindex)⟩⟩

/-- Something is true of every entry of a list iff it is true of what lies at their offsets. -/
theorem Holds.forall_mem_iff (h : format.Holds image location header entries)
    {P : format.entry.Value → Prop} :
    (∀ entry ∈ entries, P entry) ↔ ∀ index < format.count header, ∀ entry,
      image.HoldsRecord format.entry (format.entryOffset location header index) entry →
        P entry := by
  constructor
  · intro hall index hindex entry hentry
    have hlt : index < entries.length := h.length_eq.symm ▸ hindex
    have hfound := h.entry_at index _ (List.getElem?_eq_getElem hlt)
    rw [hentry.unique hfound]
    exact hall _ (List.getElem_mem hlt)
  · intro hall entry hentry
    obtain ⟨index, hindex⟩ := List.mem_iff_getElem?.mp hentry
    have hlt : index < entries.length := (List.getElem?_eq_some_iff.mp hindex).1
    exact hall index (h.length_eq ▸ hlt) entry (h.entry_at index entry hindex)

/-- A file holds a list, and its header is not shorter than what is known of it. -/
structure LaidOut (format : ListFormat) (image : Image) (location : Location)
    (header : format.header.Value) (entries : List format.entry.Value) : Prop
    extends format.Holds image location header entries where
  headerSize_le : format.header.size ≤ format.headerSize header

instance decidableLaidOut (format : ListFormat) (image : Image) (location : Location)
    (header : format.header.Value) (entries : List format.entry.Value) :
    Decidable (format.LaidOut image location header entries) :=
  decidable_of_iff (format.Holds image location header entries ∧
      format.header.size ≤ format.headerSize header)
    ⟨fun ⟨hholds, hsize⟩ => ⟨hholds, hsize⟩, fun h => ⟨h.toHolds, h.headerSize_le⟩⟩

/-- The header of a list that is not too short ends inside the stream. -/
theorem LaidOut.header_end_le (h : format.LaidOut image location header entries) :
    format.header.size ≤ location.size.toNat :=
  calc format.header.size ≤ format.headerSize header := h.headerSize_le
    _ ≤ format.headerSize header + format.count header * format.entrySize header :=
      Nat.le_add_right _ _
    _ ≤ location.size.toNat := h.in_stream

/-- An entry ends where the next one can start, which is not behind the last one. -/
theorem entryOffset_add_le (hroom : format.entry.size ≤ format.entrySize header)
    (hstream : format.headerSize header + format.count header * format.entrySize header
      ≤ location.size.toNat) {index : Nat} (hindex : index < format.count header) :
    format.entryOffset location header index + format.entry.size
      ≤ location.offset.toNat + location.size.toNat := by
  have hlast : (index + 1) * format.entrySize header
      ≤ format.count header * format.entrySize header := Nat.mul_le_mul_right _ hindex
  rw [Nat.succ_mul] at hlast
  unfold entryOffset
  omega

theorem Holds.entry_end_le (h : format.Holds image location header entries) {index : Nat}
    (hindex : index < format.count header) :
    format.entryOffset location header index + format.entry.size
      ≤ location.offset.toNat + location.size.toNat :=
  entryOffset_add_le h.entrySize_le h.in_stream hindex

theorem IsPacked.entryOffset_eq (hpacked : format.IsPacked) (index : Nat) :
    format.entryOffset location header index
      = location.offset.toNat + format.header.size + index * format.entry.size := by
  rw [entryOffset, hpacked.headerSize_eq, hpacked.entrySize_eq]

theorem IsPacked.laidOut (hpacked : format.IsPacked)
    (h : format.Holds image location header entries) :
    format.LaidOut image location header entries :=
  ⟨h, (hpacked.headerSize_eq header).ge⟩

/-! ## Lists as reads of the file -/

theorem checkFits_eq_ok_iff {headerSize count entrySize : Nat} :
    location.checkFits headerSize count entrySize = .ok () ↔
      headerSize + count * entrySize ≤ location.size.toNat := by
  have hsize : location.size.toNat < 2 ^ 32 := location.size.toNat_lt
  have hlimit : addressLimit = 2 ^ 64 := rfl
  refine refused_eq_ok_iff.trans ((and_congr_right fun _ => refused_eq_ok_iff).trans ?_)
  constructor
  · rintro ⟨-, hfits, -⟩
    exact Nat.le_of_not_lt hfits
  · intro hfits
    exact ⟨by omega, Nat.not_lt.mpr hfits, rfl⟩

theorem mapM_read_eq_ok_iff :
    ((List.range (format.count header)).mapM fun index =>
        image.read format.entry.layout (format.entryOffset location header index)) = .ok entries ↔
      entries.length = format.count header ∧ ∀ (index : Nat) (entry : format.entry.Value),
        entries[index]? = some entry →
          image.HoldsRecord format.entry (format.entryOffset location header index) entry := by
  simp only [mapM_range_eq_ok_iff, Image.read_eq_ok_iff_holdsRecord]

/-- A file holds a list iff its parts can be read and the stream is long enough. -/
theorem holds_iff :
    format.Holds image location header entries ↔
      image.read format.header.layout location.offset.toNat = .ok header ∧
      format.entry.size ≤ format.entrySize header ∧
      location.checkFits (format.headerSize header) (format.count header)
        (format.entrySize header) = .ok () ∧
      ((List.range (format.count header)).mapM fun index =>
        image.read format.entry.layout (format.entryOffset location header index))
          = .ok entries := by
  rw [Image.read_eq_ok_iff_holdsRecord, checkFits_eq_ok_iff, mapM_read_eq_ok_iff]
  constructor
  · rintro ⟨hheader, hlength, hentry, hstream, hat⟩
    exact ⟨hheader, hentry, hstream, hlength, hat⟩
  · rintro ⟨hheader, hentry, hstream, hlength, hat⟩
    exact ⟨hheader, hlength, hentry, hstream, hat⟩

/-- What a file has to hold so that there is a list at all: the stream is long enough for what
the header says, and each entry is in the file. -/
theorem exists_holds_iff :
    (∃ entries, format.Holds image location header entries) ↔
      image.HoldsRecord format.header location.offset.toNat header ∧
      format.entry.size ≤ format.entrySize header ∧
      format.headerSize header + format.count header * format.entrySize header
        ≤ location.size.toNat ∧
      ∀ index < format.count header,
        format.entryOffset location header index + format.entry.size ≤ image.size := by
  have hread : (∃ entries, ((List.range (format.count header)).mapM fun index =>
        image.read format.entry.layout (format.entryOffset location header index)) = .ok entries) ↔
      ∀ index < format.count header,
        format.entryOffset location header index + format.entry.size ≤ image.size := by
    rw [exists_mapM_iff]
    simp only [List.mem_range, Image.exists_read_iff, format.entry.size_layout]
  rw [← hread, ← checkFits_eq_ok_iff, ← Image.read_eq_ok_iff_holdsRecord]
  simp only [holds_iff, exists_and_left]

end ListFormat

end Minidump
