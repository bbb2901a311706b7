import Minidump.Proofs.ListFormats

/-!
# What list decoders have found

Every list decoder that succeeds has found a list in the file, and what it returns is made from
its entries, one by one. There is one equivalence for each decoder, and later facts about what
lists are decoded from are facts about `ListFormat.Holds`. The decoders do not all ask for the
same: a header that declares a size for itself which is too small is refused in the thread info
list, and in no other.

- `Image.countedList_bind_eq_ok_iff`, `Image.table_eq_ok_iff` — lists of the two kinds;
- `Image.unloadedModuleOfEntry`, `Image.handleOfEntry` — what is made of an entry that refers to
  names;
- `Image.threads_eq_ok_iff` to `Image.handles_eq_ok_iff` — one equivalence for each decoder.
-/

namespace Minidump

variable {α : Type}

namespace Image

variable {image : Image} {location : Location}

/-- What is made of a list behind a count is there iff the file holds the list and it is there
for the entries. -/
theorem countedList_bind_eq_ok_iff (entry : RecordFormat) {f : List entry.Value → Result α}
    {a : α} :
    (image.countedList entry.layout location >>= f) = .ok a ↔
      ∃ header entries, (ListFormat.counted entry).Holds image location header entries ∧
        f entries = .ok a := by
  unfold countedList records
  rw [bind_assoc, bind_eq_ok_iff, entry.size_layout]
  refine exists_congr fun header => ?_
  simp only [bind_assoc, bind_eq_ok_iff]
  constructor
  · rintro ⟨hheader, ⟨⟩, hfits, entries, hentries, ha⟩
    exact ⟨entries, ListFormat.holds_iff.mpr ⟨hheader, Nat.le_refl _, hfits, hentries⟩, ha⟩
  · rintro ⟨entries, hholds, ha⟩
    obtain ⟨hheader, -, hfits, hentries⟩ := ListFormat.holds_iff.mp hholds
    exact ⟨hheader, (), hfits, entries, hentries, ha⟩

theorem countedList_map_eq_ok_iff (entry : RecordFormat) {f : List entry.Value → α} {a : α} :
    f <$> image.countedList entry.layout location = .ok a ↔
      ∃ header entries, (ListFormat.counted entry).Holds image location header entries ∧
        f entries = a := by
  rw [map_eq_pure_bind, countedList_bind_eq_ok_iff]
  refine exists_congr fun header => exists_congr fun entries => and_congr_right fun _ => ?_
  exact ⟨Except.ok.inj, congrArg Except.ok⟩

theorem stridedList_eq_ok_iff (format : ListFormat) {header : format.header.Value}
    (hheader : image.read format.header.layout location.offset.toNat = .ok header)
    (hsize : format.entry.size ≤ format.entrySize header) {entryAt : Nat → Result α}
    {element : format.entry.Value → Result α}
    (hentryAt : ∀ offset, entryAt offset = image.read format.entry.layout offset >>= element)
    {as : List α} :
    stridedList entryAt location (format.headerSize header) (format.count header)
        (format.entrySize header) = .ok as ↔
      ∃ entries, format.Holds image location header entries ∧ entries.mapM element = .ok as := by
  unfold stridedList
  simp only [bind_eq_ok_iff, hentryAt, mapM_bind_eq_ok_iff, ListFormat.holds_iff]
  constructor
  · rintro ⟨⟨⟩, hfits, entries, hentries, has⟩
    exact ⟨entries, ⟨hheader, hsize, hfits, hentries⟩, has⟩
  · rintro ⟨entries, ⟨-, -, hfits, hentries⟩, has⟩
    exact ⟨(), hfits, entries, hentries, has⟩

/-- Entries that are the elements themselves. -/
theorem exists_holds_mapM_ok {format : ListFormat} {header : format.header.Value}
    {as : List format.entry.Value} :
    (∃ entries, format.Holds image location header entries ∧
        entries.mapM (fun entry => (.ok entry : Result _)) = .ok as) ↔
      format.Holds image location header as := by
  constructor
  · rintro ⟨entries, hholds, h⟩
    have hentries : entries.map id = as := mapM_ok_eq_ok_iff.mp h
    rw [List.map_id] at hentries
    exact hentries ▸ hholds
  · intro hholds
    exact ⟨as, hholds, mapM_ok_eq_ok_iff.mpr (List.map_id as)⟩

/-- A list is decoded from a table iff the file holds it and each element is there. The header
is refused if it leaves no room for an entry. -/
theorem table_eq_ok_iff (format : ListFormat) {cause : format.header.Value → Error}
    {entryAt : Nat → Result α} {element : format.entry.Value → Result α}
    (hentryAt : ∀ offset, entryAt offset = image.read format.entry.layout offset >>= element)
    {as : List α} :
    (image.read format.header.layout location.offset.toNat >>= fun header =>
        if format.entrySize header < format.entry.size then .error (cause header)
        else stridedList entryAt location (format.headerSize header) (format.count header)
          (format.entrySize header)) = .ok as ↔
      ∃ header entries, format.Holds image location header entries ∧
        entries.mapM element = .ok as := by
  rw [bind_eq_ok_iff]
  refine exists_congr fun header => ?_
  rw [refused_eq_ok_iff, Nat.not_lt]
  constructor
  · rintro ⟨hheader, hsize, h⟩
    exact (stridedList_eq_ok_iff format hheader hsize hentryAt).mp h
  · rintro ⟨entries, hholds, has⟩
    obtain ⟨hheader, hsize, -⟩ := ListFormat.holds_iff.mp hholds
    have hlist := (stridedList_eq_ok_iff format hheader hsize hentryAt).mpr ⟨entries, hholds, has⟩
    exact ⟨hheader, hsize, hlist⟩

/-! ## What entries refer to -/

/-- The unloaded module of a list entry, with the name it refers to. -/
def unloadedModuleOfEntry (image : Image) (entry : UnloadedModuleEntry) :
    Result UnloadedModule := do
  let range ← moduleRange .unloadedModuleRange entry.base entry.imageSize
  let name ← image.textAt entry.nameOffset.toNat
  pure { range, checksum := entry.checksum, timestamp := entry.timestamp, name }

/-- The handle of a descriptor, with the names it refers to. -/
def handleOfEntry (image : Image) (entry : HandleDescriptor) : Result Handle := do
  let typeName ← image.optionalTextAt entry.typeNameOffset
  let objectName ← image.optionalTextAt entry.objectNameOffset
  pure {
    handle := entry.handle
    typeName
    objectName
    attributes := entry.attributes
    grantedAccess := entry.grantedAccess
    handleCount := entry.handleCount
    pointerCount := entry.pointerCount
  }

/-! ## One equivalence for each decoder -/

theorem threads_eq_ok_iff {threads : List Thread} :
    image.threads location = .ok threads ↔
      ∃ header entries, ListFormat.threads.Holds image location header entries ∧
        entries.map Thread.ofEntry = threads := by
  rw [threads_eq]
  exact countedList_map_eq_ok_iff RecordKind.threadEntry.format

theorem threadsEx_eq_ok_iff {threads : List ThreadEx} :
    image.threadsEx location = .ok threads ↔
      ∃ header entries, ListFormat.threadsEx.Holds image location header entries ∧
        entries.map ThreadEx.ofEntry = threads := by
  rw [threadsEx_eq]
  exact countedList_map_eq_ok_iff RecordKind.threadExEntry.format

theorem memoryList_eq_ok_iff {list : MemoryList} :
    image.memoryList location = .ok list ↔
      ∃ header, ListFormat.memory.Holds image location header list.ranges := by
  rw [memoryList_eq]
  refine (countedList_map_eq_ok_iff RecordKind.memoryDescriptor.format).trans ?_
  constructor
  · rintro ⟨header, entries, hholds, rfl⟩
    exact ⟨header, hholds⟩
  · rintro ⟨header, hholds⟩
    exact ⟨header, list.ranges, hholds, rfl⟩

theorem memory64List_eq_ok_iff {list : Memory64List} :
    image.memory64List location = .ok list ↔
      ∃ header : Memory64Header, ListFormat.memory64.Holds image location header list.ranges ∧
        header.baseOffset = list.baseOffset := by
  rw [memory64List_eq, bind_eq_ok_iff]
  refine exists_congr fun header => ?_
  simp only [bind_eq_ok_iff]
  constructor
  · rintro ⟨hheader, ⟨⟩, hfits, ranges, hranges, h⟩
    cases h
    exact ⟨ListFormat.holds_iff.mpr ⟨hheader, Nat.le_refl _, hfits, hranges⟩, rfl⟩
  · rintro ⟨hholds, hbase⟩
    obtain ⟨hheader, -, hfits, hranges⟩ := ListFormat.holds_iff.mp hholds
    exact ⟨hheader, (), hfits, list.ranges, hranges, by rw [hbase]; rfl⟩

theorem modules_eq_ok_iff {modules : List Module} :
    image.modules location = .ok modules ↔
      ∃ header entries, ListFormat.modules.Holds image location header entries ∧
        entries.mapM image.moduleOfEntry = .ok modules := by
  rw [modules_eq]
  exact countedList_bind_eq_ok_iff RecordKind.moduleEntry.format

theorem threadInfo_eq_ok_iff {infos : List ThreadInfo} :
    image.threadInfo location = .ok infos ↔
      ∃ header : TableHeader, ListFormat.threadInfo.Holds image location header infos ∧
        12 ≤ header.headerSize.toNat := by
  rw [threadInfo_eq, bind_eq_ok_iff]
  refine exists_congr fun header => ?_
  have hlist (hheader : image.read TableHeader.layout location.offset.toNat = .ok header)
      (hentry : ThreadInfo.layout.size ≤ header.entrySize.toNat) :
      stridedList (image.read ThreadInfo.layout) location header.headerSize.toNat
          header.count.toNat header.entrySize.toNat = .ok infos ↔
        ListFormat.threadInfo.Holds image location header infos :=
    (stridedList_eq_ok_iff ListFormat.threadInfo hheader hentry fun _ =>
      (bind_pure _).symm).trans exists_holds_mapM_ok
  constructor
  · rintro ⟨hheader, h⟩
    obtain ⟨hentry, h⟩ := refused_eq_ok_iff.mp h
    obtain ⟨hsize, h⟩ := refused_eq_ok_iff.mp h
    exact ⟨(hlist hheader (Nat.le_of_not_lt hentry)).mp h, Nat.le_of_not_lt hsize⟩
  · rintro ⟨hholds, hsize⟩
    obtain ⟨hheader, hentry, -⟩ := ListFormat.holds_iff.mp hholds
    have hdecoded := (hlist hheader hentry).mpr hholds
    refine ⟨hheader, refused_eq_ok_iff.mpr ⟨Nat.not_lt.mpr hentry, ?_⟩⟩
    exact refused_eq_ok_iff.mpr ⟨Nat.not_lt.mpr hsize, hdecoded⟩

theorem memoryInfo_eq_ok_iff {infos : List MemoryInfo} :
    image.memoryInfo location = .ok infos ↔
      ∃ header, ListFormat.memoryInfo.Holds image location header infos := by
  rw [memoryInfo_eq]
  refine (table_eq_ok_iff ListFormat.memoryInfo fun _ => (bind_pure _).symm).trans ?_
  exact exists_congr fun header => exists_holds_mapM_ok

theorem unloadedModules_eq_ok_iff {modules : List UnloadedModule} :
    image.unloadedModules location = .ok modules ↔
      ∃ header entries, ListFormat.unloadedModules.Holds image location header entries ∧
        entries.mapM image.unloadedModuleOfEntry = .ok modules := by
  rw [unloadedModules_eq]
  exact table_eq_ok_iff ListFormat.unloadedModules fun _ => rfl

theorem handles_eq_ok_iff {handles : List Handle} :
    image.handles location = .ok handles ↔
      ∃ header entries, ListFormat.handles.Holds image location header entries ∧
        entries.mapM image.handleOfEntry = .ok handles := by
  rw [handles_eq]
  exact table_eq_ok_iff ListFormat.handles fun _ => rfl

end Image

end Minidump
