import Minidump.Proofs.StoredLists

/-!
# Files that share a stream

The directory of a dump declares for each stream which bytes of the file it has. Five lists keep
to theirs: whatever they have been decoded to, another file that has these bytes, as far as the
first file has them, is decoded to the same, be it longer or different everywhere else. This
holds of lists whose headers declare sizes as well, as long as the header itself is in the
stream: a list that fits in its stream then has all that is read of it there.

- `Image.SharesStream` — another file has the bytes of a stream;
- `Image.SharesStream.window?_eq_some` — and so every byte range inside the stream;
- `ListFormat.LaidOut.of_sharesStream` — another file that has the bytes of a list holds it;
- `Image.threads_of_sharesStream` to `Image.memory64List_of_sharesStream` — one statement for each
  list;
- `Scan.lists_depend_on_stream` — the five lists are decoded from their streams alone.
-/

namespace Minidump

variable {image other : Image} {location : Location}

/-! ## The bytes of a stream -/

/-- Another file is not shorter, and has the bytes that a file has in a stream. A stream can go
on behind the end of the first file, and nothing is said of what the other one has there. -/
structure Image.SharesStream (image other : Image) (location : Location) : Prop where
  size_le : image.size ≤ other.size
  byte_eq : ∀ offset < image.size, location.offset.toNat ≤ offset →
    offset < location.offset.toNat + location.size.toNat →
      other.bytes.data[offset]? = image.bytes.data[offset]?

instance : Decidable (image.SharesStream other location) :=
  decidable_of_iff
    (image.size ≤ other.size ∧ ∀ offset < image.size, location.offset.toNat ≤ offset →
      offset < location.offset.toNat + location.size.toNat →
        other.bytes.data[offset]? = image.bytes.data[offset]?)
    ⟨fun ⟨hsize, hbyte⟩ => ⟨hsize, hbyte⟩, fun h => ⟨h.size_le, h.byte_eq⟩⟩

namespace Image.SharesStream

/-- A byte range inside the stream that is in the first file is in the other one, too. -/
theorem window?_eq_some (h : image.SharesStream other location) {offset length : Nat}
    {bs : List UInt8} (hstart : location.offset.toNat ≤ offset)
    (hstop : offset + length ≤ location.offset.toNat + location.size.toNat)
    (hfound : image.window? offset length = some bs) : other.window? offset length = some bs := by
  obtain ⟨hfits, rfl⟩ := window?_eq_some_iff.mp hfound
  refine window?_eq_some_iff.mpr ⟨hfits.trans h.size_le, List.ext_getElem? fun index => ?_⟩
  simp only [List.getElem?_take, List.getElem?_drop, Array.getElem?_toList]
  by_cases hindex : index < length
  · rw [if_pos hindex, if_pos hindex]
    exact (h.byte_eq (offset + index) (by omega) (by omega) (by omega)).symm
  · rw [if_neg hindex, if_neg hindex]

theorem holdsRecord (h : image.SharesStream other location) {format : RecordFormat}
    {offset : Nat} {record : format.Value} (hstart : location.offset.toNat ≤ offset)
    (hstop : offset + format.size ≤ location.offset.toNat + location.size.toNat)
    (hrecord : image.HoldsRecord format offset record) :
    other.HoldsRecord format offset record :=
  h.window?_eq_some hstart hstop hrecord

end Image.SharesStream

/-! ## Lists inside their streams -/

namespace ListFormat

variable {format : ListFormat} {header : format.header.Value} {entries : List format.entry.Value}

/-- A list is held by every file that has the bytes of its stream. -/
theorem LaidOut.of_sharesStream (h : format.LaidOut image location header entries)
    (hshares : image.SharesStream other location) :
    format.LaidOut other location header entries where
  header_at :=
    hshares.holdsRecord (Nat.le_refl _) (Nat.add_le_add_left h.header_end_le _) h.header_at
  length_eq := h.length_eq
  entrySize_le := h.entrySize_le
  in_stream := h.in_stream
  entry_at index entry hentry := by
    have hindex : index < format.count header :=
      h.length_eq ▸ (List.getElem?_eq_some_iff.mp hentry).1
    have hstart : location.offset.toNat ≤ format.entryOffset location header index := by
      unfold entryOffset
      omega
    exact hshares.holdsRecord hstart (h.entry_end_le hindex) (h.entry_at index entry hentry)
  headerSize_le := h.headerSize_le

theorem IsPacked.holds_of_sharesStream (hpacked : format.IsPacked)
    (hshares : image.SharesStream other location)
    (h : format.Holds image location header entries) :
    format.Holds other location header entries :=
  ((hpacked.laidOut h).of_sharesStream hshares).toHolds

end ListFormat

/-! ## The five lists -/

namespace Image

theorem threads_of_sharesStream (h : image.SharesStream other location) {found : List Thread}
    (hfound : image.threads location = .ok found) : other.threads location = .ok found := by
  obtain ⟨header, entries, hholds, hmade⟩ := threads_eq_ok_iff.mp hfound
  have hother := (ListFormat.isPacked_counted _).holds_of_sharesStream h hholds
  exact threads_eq_ok_iff.mpr ⟨header, entries, hother, hmade⟩

theorem threadsEx_of_sharesStream (h : image.SharesStream other location)
    {found : List ThreadEx} (hfound : image.threadsEx location = .ok found) :
    other.threadsEx location = .ok found := by
  obtain ⟨header, entries, hholds, hmade⟩ := threadsEx_eq_ok_iff.mp hfound
  have hother := (ListFormat.isPacked_counted _).holds_of_sharesStream h hholds
  exact threadsEx_eq_ok_iff.mpr ⟨header, entries, hother, hmade⟩

/-- This is the only one of the five with declared sizes, and the only list that checks what its
header declares for itself. -/
theorem threadInfo_of_sharesStream (h : image.SharesStream other location)
    {found : List ThreadInfo} (hfound : image.threadInfo location = .ok found) :
    other.threadInfo location = .ok found := by
  obtain ⟨header, hholds, hheader⟩ := threadInfo_eq_ok_iff.mp hfound
  have hlaid : ListFormat.threadInfo.LaidOut image location header found := ⟨hholds, hheader⟩
  have hother := hlaid.of_sharesStream h
  exact threadInfo_eq_ok_iff.mpr ⟨header, hother.toHolds, hheader⟩

theorem memoryList_of_sharesStream (h : image.SharesStream other location) {found : MemoryList}
    (hfound : image.memoryList location = .ok found) :
    other.memoryList location = .ok found := by
  obtain ⟨header, hholds⟩ := memoryList_eq_ok_iff.mp hfound
  have hother := (ListFormat.isPacked_counted _).holds_of_sharesStream h hholds
  exact memoryList_eq_ok_iff.mpr ⟨header, hother⟩

theorem memory64List_of_sharesStream (h : image.SharesStream other location)
    {found : Memory64List} (hfound : image.memory64List location = .ok found) :
    other.memory64List location = .ok found := by
  obtain ⟨header, hholds, hbase⟩ := memory64List_eq_ok_iff.mp hfound
  have hother := ListFormat.isPacked_memory64.holds_of_sharesStream h hholds
  exact memory64List_eq_ok_iff.mpr ⟨header, hother, hbase⟩

end Image

/-- **A decoded list depends on its own stream alone.** If the thread, extended thread, thread
info, memory or 64-bit memory list at a location is decoded from a file, then every file that is
not shorter and has the same bytes in the declared stream, as far as the first one has them, is
decoded to the same, wherever in the files the decoders start. -/
theorem Scan.lists_depend_on_stream (h : image.SharesStream other location)
    (position otherPosition : Nat) :
    (∀ found, (threads image location).runFrom position = .ok found →
        (threads other location).runFrom otherPosition = .ok found) ∧
      (∀ found, (threadsEx image location).runFrom position = .ok found →
        (threadsEx other location).runFrom otherPosition = .ok found) ∧
      (∀ found, (threadInfo image location).runFrom position = .ok found →
        (threadInfo other location).runFrom otherPosition = .ok found) ∧
      (∀ found, (memoryList image location).runFrom position = .ok found →
        (memoryList other location).runFrom otherPosition = .ok found) ∧
      (∀ found, (memory64List image location).runFrom position = .ok found →
        (memory64List other location).runFrom otherPosition = .ok found) := by
  simp only [runFrom_eq_of_gives (gives_threads _ location),
    runFrom_eq_of_gives (gives_threadsEx _ location),
    runFrom_eq_of_gives (gives_threadInfo _ location),
    runFrom_eq_of_gives (gives_memoryList _ location),
    runFrom_eq_of_gives (gives_memory64List _ location)]
  refine ⟨?_, ?_, ?_, ?_, ?_⟩
  · exact fun found hfound => Image.threads_of_sharesStream h hfound
  · exact fun found hfound => Image.threadsEx_of_sharesStream h hfound
  · exact fun found hfound => Image.threadInfo_of_sharesStream h hfound
  · exact fun found hfound => Image.memoryList_of_sharesStream h hfound
  · exact fun found hfound => Image.memory64List_of_sharesStream h hfound

/-- A memory list whose stream goes on behind the end of the file, and a longer file that differs
from it before the stream and behind its own end. -/
theorem Scan.lists_depend_on_stream_past_the_end :
    let list : List UInt8 := [1, 0, 0, 0, 0, 0x10, 0, 0, 0, 0, 0, 0, 8, 0, 0, 0, 0x30, 1, 0, 0];
    let image : Image := ⟨⟨([9, 9] ++ list).toArray⟩⟩;
    let other : Image := ⟨⟨([7, 7] ++ list ++ [5, 5]).toArray⟩⟩;
    image.SharesStream other ⟨30, 2⟩ ∧
      (memoryList image ⟨30, 2⟩).runFrom 0 = .ok ⟨[⟨0x1000, ⟨8, 0x130⟩⟩]⟩ ∧
      (memoryList other ⟨30, 2⟩).runFrom 5 = .ok ⟨[⟨0x1000, ⟨8, 0x130⟩⟩]⟩ := by
  intro list image other
  have hshares : image.SharesStream other ⟨30, 2⟩ := by decide +kernel
  have hlist : (memoryList image ⟨30, 2⟩).runFrom 0 = .ok ⟨[⟨0x1000, ⟨8, 0x130⟩⟩]⟩ := by
    decide +kernel
  obtain ⟨-, -, -, hmemory, -⟩ := lists_depend_on_stream hshares 0 5
  exact ⟨hshares, hlist, hmemory _ hlist⟩

end Minidump
