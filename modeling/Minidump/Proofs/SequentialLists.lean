import Minidump.Proofs.StoredLists
import Minidump.Proofs.StoredText

/-!
# Lists that are read from front to back

Five lists have entries of a known size right behind a header of a known size. They are read
one entry after the other, from a position that nobody says; modules, moreover, refer to bytes
and names all over the file, and these are read in between. Still every entry is the one at the
offset that its index gives, and whether the list is there can be told beforehand: from the
header, the size of the stream and the size of the file, and for modules from what their entries
refer to.

- `ThreadEntry.Describes`, `ThreadExEntry.Describes` — a thread has what its entry says, and no
  registers yet;
- `Image.HoldsBlock` — the bytes of a location, of which an empty one has none;
- `ModuleEntry.IsReadable`, `ModuleEntry.Describes` — what an entry refers to is there, and it is
  that of a module;
- `ListFormat.Fits` — the stream and the file are long enough for a list;
- `ListFormat.DecodesByPosition` — a result is that of decoding a list by the offsets of its
  entries;
- `Scan.lists_decode_by_position` — the five lists are decoded so.
-/

namespace Minidump

variable {α : Type}

/-! ## What entries of threads say -/

/-- A thread is the one of an entry: it has all that the entry says, and no registers yet. -/
structure ThreadEntry.Describes (entry : ThreadEntry) (thread : Thread) : Prop where
  id_eq : thread.id = entry.id
  suspendCount_eq : thread.suspendCount = entry.suspendCount
  priorityClass_eq : thread.priorityClass = entry.priorityClass
  priority_eq : thread.priority = entry.priority
  teb_eq : thread.teb = entry.teb
  stack_eq : thread.stack = entry.stack
  contextLocation_eq : thread.contextLocation = entry.context
  context_eq : thread.context = none

/-- An extended thread is the one of an entry: the thread in it, and its backing store. -/
structure ThreadExEntry.Describes (entry : ThreadExEntry) (thread : ThreadEx) : Prop where
  thread_of : entry.thread.Describes thread.thread
  backingStore_eq : thread.backingStore = entry.backingStore

theorem Thread.ofEntry_eq_iff {entry : ThreadEntry} {thread : Thread} :
    Thread.ofEntry entry = thread ↔ entry.Describes thread := by
  constructor
  · rintro rfl
    exact ⟨rfl, rfl, rfl, rfl, rfl, rfl, rfl, rfl⟩
  · obtain ⟨id, suspendCount, priorityClass, priority, teb, stack, location, context⟩ := thread
    rintro ⟨rfl, rfl, rfl, rfl, rfl, rfl, rfl, rfl⟩
    rfl

theorem ThreadEx.ofEntry_eq_iff {entry : ThreadExEntry} {thread : ThreadEx} :
    ThreadEx.ofEntry entry = thread ↔ entry.Describes thread := by
  constructor
  · rintro rfl
    exact ⟨Thread.ofEntry_eq_iff.mp rfl, rfl⟩
  · obtain ⟨thread, backingStore⟩ := thread
    rintro ⟨hthread, rfl⟩
    obtain rfl := Thread.ofEntry_eq_iff.mpr hthread
    rfl

/-! ## What modules refer to -/

section Modules

variable {image : Image}

/-- Bytes are those of a location: an empty location has none, wherever it is. -/
def Image.HoldsBlock (image : Image) (location : Location) (bs : List UInt8) : Prop :=
  if location.size = 0 then bs = []
  else image.window? location.offset.toNat location.size.toNat = some bs

instance (image : Image) (location : Location) (bs : List UInt8) :
    Decidable (image.HoldsBlock location bs) :=
  inferInstanceAs (Decidable (if location.size = 0 then bs = []
    else image.window? location.offset.toNat location.size.toNat = some bs))

theorem Image.block_eq_ok_iff {location : Location} {bs : List UInt8} :
    image.block location = .ok bs ↔ image.HoldsBlock location bs := by
  have hzero : location.size.toNat = 0 ↔ location.size = 0 := UInt32.toNat_inj (b := 0)
  unfold block readBytes HoldsBlock
  by_cases hempty : location.size = 0
  · rw [if_pos hempty, if_pos (hzero.mpr hempty)]
    exact ⟨fun h => (Except.ok.inj h).symm, fun h => h ▸ rfl⟩
  · rw [if_neg hempty, if_neg (mt hzero.mp hempty)]
    cases image.window? location.offset.toNat location.size.toNat with
    | none => exact ⟨fun h => (nomatch h), fun h => (nomatch h)⟩
    | some found => exact ⟨fun h => congrArg some (Except.ok.inj h), fun h => h ▸ rfl⟩

theorem Image.exists_holdsBlock_iff {location : Location} :
    (∃ bs, image.HoldsBlock location bs) ↔
      location.size = 0 ∨ location.offset.toNat + location.size.toNat ≤ image.size := by
  unfold HoldsBlock
  by_cases hempty : location.size = 0
  · simp [hempty]
  · simp only [hempty, if_false, false_or, window?_eq_some_iff]
    exact ⟨fun ⟨_, h, _⟩ => h, fun h => ⟨_, h, rfl⟩⟩

/-- What an entry of the module list says and refers to is there: the range ends below 2⁶⁴,
and the debug records and the name are in the file. -/
structure ModuleEntry.IsReadable (entry : ModuleEntry) (image : Image) : Prop where
  stop_lt : entry.base.toNat + entry.imageSize.toNat < 2 ^ 64
  cvRecord_in_file : entry.cvRecord.size = 0 ∨
    entry.cvRecord.offset.toNat + entry.cvRecord.size.toNat ≤ image.size
  miscRecord_in_file : entry.miscRecord.size = 0 ∨
    entry.miscRecord.offset.toNat + entry.miscRecord.size.toNat ≤ image.size
  exists_name : ∃ name, image.HoldsText entry.nameOffset.toNat name

/-- A module is the one of an entry: its records and its path are exactly what the entry points
to. -/
structure ModuleEntry.Describes (entry : ModuleEntry) (image : Image) (m : Module) : Prop where
  stop_lt : entry.base.toNat + entry.imageSize.toNat < 2 ^ 64
  range_eq : m.range = ⟨entry.base.toNat, entry.base.toNat + entry.imageSize.toNat⟩
  checksum_eq : m.checksum = entry.checksum
  timestamp_eq : m.timestamp = entry.timestamp
  version_eq : m.version = entry.version
  cvRecord_at : image.HoldsBlock entry.cvRecord m.cvRecord
  miscRecord_at : image.HoldsBlock entry.miscRecord m.miscRecord
  path_at : image.HoldsText entry.nameOffset.toNat m.path

theorem moduleRange_eq_ok_iff {quantity : Quantity} {base : UInt64} {size : UInt32}
    {range : AddressRange} :
    moduleRange quantity base size = .ok range ↔
      base.toNat + size.toNat < 2 ^ 64 ∧ range = ⟨base.toNat, base.toNat + size.toNat⟩ := by
  have hlimit : addressLimit = 2 ^ 64 := rfl
  unfold moduleRange AddressRange.ofSize? checkedAdd?
  by_cases hlt : base.toNat + size.toNat < addressLimit
  · rw [if_pos hlt]
    exact ⟨fun h => ⟨hlt, (Except.ok.inj h).symm⟩, fun h => h.2 ▸ rfl⟩
  · rw [if_neg hlt]
    exact ⟨fun h => (nomatch h), fun h => absurd h.1 hlt⟩

theorem Image.moduleOfEntry_eq_ok_iff {entry : ModuleEntry} {m : Module} :
    image.moduleOfEntry entry = .ok m ↔ entry.Describes image m := by
  unfold moduleOfEntry
  simp only [bind_eq_ok_iff, moduleRange_eq_ok_iff, block_eq_ok_iff, textAt_eq_ok_iff]
  constructor
  · rintro ⟨range, ⟨hlt, rfl⟩, cvRecord, hcv, miscRecord, hmisc, path, hpath, h⟩
    cases h
    exact ⟨hlt, rfl, rfl, rfl, rfl, hcv, hmisc, hpath⟩
  · obtain ⟨range, checksum, timestamp, path, version, cvRecord, miscRecord⟩ := m
    rintro ⟨hlt, rfl, rfl, rfl, rfl, hcv, hmisc, hpath⟩
    exact ⟨_, ⟨hlt, rfl⟩, cvRecord, hcv, miscRecord, hmisc, path, hpath, rfl⟩

theorem ModuleEntry.exists_describes_iff {entry : ModuleEntry} :
    (∃ m, entry.Describes image m) ↔ entry.IsReadable image := by
  constructor
  · rintro ⟨m, h⟩
    exact ⟨h.stop_lt, Image.exists_holdsBlock_iff.mp ⟨_, h.cvRecord_at⟩,
      Image.exists_holdsBlock_iff.mp ⟨_, h.miscRecord_at⟩, ⟨_, h.path_at⟩⟩
  · rintro ⟨hlt, hcv, hmisc, path, hpath⟩
    obtain ⟨cvRecord, hcv⟩ := Image.exists_holdsBlock_iff.mpr hcv
    obtain ⟨miscRecord, hmisc⟩ := Image.exists_holdsBlock_iff.mpr hmisc
    exact ⟨{ range := _, checksum := _, timestamp := _, path, version := _, cvRecord, miscRecord },
      hlt, rfl, rfl, rfl, rfl, hcv, hmisc, hpath⟩

end Modules

/-! ## Lists without gaps -/

namespace ListFormat

/-- The header of a list lies at a location, header and entries are no longer than the stream,
and the last entry ends inside the file. -/
structure Fits (format : ListFormat) (image : Image) (location : Location)
    (header : format.header.Value) : Prop where
  header_at : image.HoldsRecord format.header location.offset.toNat header
  in_stream :
    format.header.size + format.count header * format.entry.size ≤ location.size.toNat
  in_file : location.offset.toNat + format.header.size
    + format.count header * format.entry.size ≤ image.size

/-- A result is that of decoding a list by position. It is there iff the list fits and all its
entries can be read with what they refer to; then there are as many elements as the header says,
and each is described by the entry that lies at the offset of its index. -/
structure DecodesByPosition (format : ListFormat) (image : Image) (location : Location)
    (IsReadable : format.entry.Value → Prop) (Describes : format.entry.Value → α → Prop)
    (result : Result (List α)) : Prop where
  exists_ok_iff : (∃ as, result = .ok as) ↔
    ∃ header, format.Fits image location header ∧
      ∀ index < format.count header, ∀ entry,
        image.HoldsRecord format.entry
            (location.offset.toNat + format.header.size + index * format.entry.size) entry →
          IsReadable entry
  of_ok : ∀ as, result = .ok as →
    ∃ header, format.Fits image location header ∧ as.length = format.count header ∧
      ∀ (index : Nat) (a : α), as[index]? = some a →
        ∃ entry, Describes entry a ∧ image.HoldsRecord format.entry
          (location.offset.toNat + format.header.size + index * format.entry.size) entry

variable {format : ListFormat} {image : Image} {location : Location}
  {header : format.header.Value}

/-- Without gaps the last entry is the one that decides whether all are in the file. -/
theorem IsPacked.exists_holds_iff (hpacked : format.IsPacked) :
    (∃ entries, format.Holds image location header entries) ↔
      format.Fits image location header := by
  rw [ListFormat.exists_holds_iff]
  simp only [entryOffset, hpacked.headerSize_eq, hpacked.entrySize_eq]
  constructor
  · rintro ⟨hheader, -, hstream, hfile⟩
    refine ⟨hheader, hstream, ?_⟩
    have hend := Image.exists_holdsRecord_iff.mp ⟨header, hheader⟩
    cases hcount : format.count header with
    | zero =>
      rw [Nat.zero_mul]
      exact hend
    | succ last =>
      have hlast := hfile last (hcount ▸ Nat.lt_succ_self last)
      rw [Nat.succ_mul]
      omega
  · rintro ⟨hheader, hstream, hfile⟩
    refine ⟨hheader, Nat.le_refl _, hstream, fun index hindex => ?_⟩
    have hle : (index + 1) * format.entry.size ≤ format.count header * format.entry.size :=
      Nat.mul_le_mul_right _ hindex
    rw [Nat.succ_mul] at hle
    omega

/-- A decoder that makes its elements from the entries of a list without gaps decodes it by
position. -/
theorem IsPacked.decodesByPosition (hpacked : format.IsPacked)
    {IsReadable : format.entry.Value → Prop} {Describes : format.entry.Value → α → Prop}
    (element : format.entry.Value → Result α) {result : Result (List α)}
    (hresult : ∀ as, result = .ok as ↔ ∃ header entries,
      format.Holds image location header entries ∧ entries.mapM element = .ok as)
    (hdescribes : ∀ entry a, element entry = .ok a ↔ Describes entry a)
    (hreadable : ∀ entry, (∃ a, Describes entry a) ↔ IsReadable entry) :
    format.DecodesByPosition image location IsReadable Describes result := by
  have helement (entry : format.entry.Value) :
      (∃ a, element entry = .ok a) ↔ IsReadable entry :=
    (exists_congr (hdescribes entry)).trans (hreadable entry)
  have hreadableAt (header : format.header.Value) :
      (∃ entries, format.Holds image location header entries ∧
          ∀ entry ∈ entries, IsReadable entry) ↔
        format.Fits image location header ∧ ∀ index < format.count header, ∀ entry,
          image.HoldsRecord format.entry
              (location.offset.toNat + format.header.size + index * format.entry.size) entry →
            IsReadable entry := by
    rw [← hpacked.exists_holds_iff, ← exists_and_right]
    refine exists_congr fun entries => and_congr_right fun hholds => ?_
    simp only [hholds.forall_mem_iff, hpacked.entryOffset_eq]
  constructor
  · rw [← exists_congr hreadableAt]
    simp only [← helement, ← exists_mapM_iff]
    constructor
    · rintro ⟨as, has⟩
      obtain ⟨header, entries, hholds, helements⟩ := (hresult as).mp has
      exact ⟨header, entries, hholds, as, helements⟩
    · rintro ⟨header, entries, hholds, as, helements⟩
      exact ⟨as, (hresult as).mpr ⟨header, entries, hholds, helements⟩⟩
  · intro as has
    obtain ⟨header, entries, hholds, helements⟩ := (hresult as).mp has
    have hfits := hpacked.exists_holds_iff.mp ⟨entries, hholds⟩
    obtain ⟨hlength, hget⟩ := getElem?_of_mapM helements
    refine ⟨header, hfits, hlength.trans hholds.length_eq, fun index a ha => ?_⟩
    obtain ⟨entry, hentry, ha⟩ := hget index a ha
    rw [← hpacked.entryOffset_eq]
    exact ⟨entry, (hdescribes entry a).mp ha, hholds.entry_at index entry hentry⟩

/-- Entries that refer to nothing are elements, or are made into elements, without fail. -/
theorem IsPacked.decodesByPosition_map (hpacked : format.IsPacked)
    {Describes : format.entry.Value → α → Prop} {f : format.entry.Value → α}
    {result : Result (List α)}
    (hresult : ∀ as, result = .ok as ↔ ∃ header entries,
      format.Holds image location header entries ∧ entries.map f = as)
    (hdescribes : ∀ entry a, f entry = a ↔ Describes entry a) :
    format.DecodesByPosition image location (fun _ => True) Describes result := by
  refine hpacked.decodesByPosition (fun entry => .ok (f entry)) ?_ ?_ ?_
  · simp only [hresult, mapM_ok_eq_ok_iff, implies_true]
  · intro entry a
    rw [← hdescribes entry a]
    exact ⟨Except.ok.inj, congrArg Except.ok⟩
  · exact fun entry => ⟨fun _ => trivial, fun _ => ⟨f entry, (hdescribes entry _).mp rfl⟩⟩

end ListFormat

/-! ## The five lists -/

namespace Image

variable {image : Image} {location : Location}

theorem ranges_memoryList_eq_ok_iff {ranges : List MemoryDescriptor} :
    MemoryList.ranges <$> image.memoryList location = .ok ranges ↔
      ∃ header entries, ListFormat.memory.Holds image location header entries ∧
        entries.map id = ranges := by
  simp only [map_eq_ok_iff, memoryList_eq_ok_iff]
  constructor
  · rintro ⟨list, ⟨header, hholds⟩, rfl⟩
    exact ⟨header, list.ranges, hholds, List.map_id _⟩
  · rintro ⟨header, entries, hholds, rfl⟩
    exact ⟨⟨entries⟩, ⟨header, hholds⟩, (List.map_id _).symm⟩

theorem ranges_memory64List_eq_ok_iff {ranges : List MemoryDescriptor64} :
    Memory64List.ranges <$> image.memory64List location = .ok ranges ↔
      ∃ header entries, ListFormat.memory64.Holds image location header entries ∧
        entries.map id = ranges := by
  simp only [map_eq_ok_iff, memory64List_eq_ok_iff]
  constructor
  · rintro ⟨list, ⟨header, hholds, -⟩, rfl⟩
    exact ⟨header, list.ranges, hholds, List.map_id _⟩
  · rintro ⟨header, entries, hholds, rfl⟩
    exact ⟨⟨Memory64Header.baseOffset header, entries⟩, ⟨header, hholds, rfl⟩,
      (List.map_id _).symm⟩

/-- The base offset of a 64-bit memory list is that of its header. -/
theorem exists_header_of_memory64List {list : Memory64List}
    (h : image.memory64List location = .ok list) :
    ∃ header : Memory64Header,
      image.HoldsRecord RecordKind.memory64Header.format location.offset.toNat header ∧
        list.baseOffset = header.baseOffset := by
  obtain ⟨header, hholds, hbase⟩ := memory64List_eq_ok_iff.mp h
  exact ⟨header, hholds.header_at, hbase.symm⟩

end Image

/-- **Reading a list from front to back is decoding it by position.** From every position in a
file on, the thread, extended thread, memory, 64-bit memory and module lists at a location are
decoded iff their header lies there, header and entries are no longer than the stream, and the
last entry ends inside the file; for modules, moreover, every entry must have a range that ends
below 2⁶⁴, records and a name that can be read where it says. Then there are as many elements as
the header says, and each is the one of the entry that lies at the offset of its index: a thread
has what this entry says and no registers, a range is the entry itself, and the records and the
path of a module are those that its entry points to. -/
theorem Scan.lists_decode_by_position (image : Image) (location : Location) (position : Nat) :
    ListFormat.threads.DecodesByPosition image location (fun _ => True)
        (fun entry thread => ThreadEntry.Describes entry thread)
        ((threads image location).runFrom position) ∧
      ListFormat.threadsEx.DecodesByPosition image location (fun _ => True)
        (fun entry thread => ThreadExEntry.Describes entry thread)
        ((threadsEx image location).runFrom position) ∧
      ListFormat.memory.DecodesByPosition image location (fun _ => True)
        (fun entry range => entry = range)
        (MemoryList.ranges <$> (memoryList image location).runFrom position) ∧
      ListFormat.memory64.DecodesByPosition image location (fun _ => True)
        (fun entry range => entry = range)
        (Memory64List.ranges <$> (memory64List image location).runFrom position) ∧
      (∀ list, (memory64List image location).runFrom position = .ok list →
        ∃ header : Memory64Header,
          image.HoldsRecord RecordKind.memory64Header.format location.offset.toNat header ∧
            list.baseOffset = header.baseOffset) ∧
      ListFormat.modules.DecodesByPosition image location
        (fun entry => ModuleEntry.IsReadable entry image)
        (fun entry m => ModuleEntry.Describes entry image m)
        ((modules image location).runFrom position) := by
  have hpacked := fun entry => ListFormat.isPacked_counted entry
  have hmodules : ListFormat.modules.IsPacked := hpacked _
  simp only [runFrom_eq_of_gives (gives_threads image location),
    runFrom_eq_of_gives (gives_threadsEx image location),
    runFrom_eq_of_gives (gives_memoryList image location),
    runFrom_eq_of_gives (gives_memory64List image location),
    runFrom_eq_of_gives (gives_modules image location)]
  refine ⟨?_, ?_, ?_, ?_, ?_, ?_⟩
  · exact (hpacked _).decodesByPosition_map (fun _ => Image.threads_eq_ok_iff)
      fun _ _ => Thread.ofEntry_eq_iff
  · exact (hpacked _).decodesByPosition_map (fun _ => Image.threadsEx_eq_ok_iff)
      fun _ _ => ThreadEx.ofEntry_eq_iff
  · exact (hpacked _).decodesByPosition_map (fun _ => Image.ranges_memoryList_eq_ok_iff)
      fun _ _ => Iff.rfl
  · exact ListFormat.isPacked_memory64.decodesByPosition_map
      (fun _ => Image.ranges_memory64List_eq_ok_iff) fun _ _ => Iff.rfl
  · exact fun list hlist => Image.exists_header_of_memory64List hlist
  · exact hmodules.decodesByPosition image.moduleOfEntry (fun _ => Image.modules_eq_ok_iff)
      (fun _ _ => Image.moduleOfEntry_eq_ok_iff) fun _ => ModuleEntry.exists_describes_iff

example :
    let image : Image := ⟨⟨#[1, 0, 0, 0, 0, 0x10, 0, 0, 0, 0, 0, 0, 8, 0, 0, 0, 0x30, 1, 0, 0]⟩⟩
    (Scan.memoryList image ⟨20, 0⟩).runFrom 7 = .ok ⟨[⟨0x1000, ⟨8, 0x130⟩⟩]⟩ ∧
      (Scan.memoryList image ⟨19, 0⟩).runFrom 7 = .error (.streamTooShort ⟨19, 0⟩ 20) := by
  decide +kernel

end Minidump
