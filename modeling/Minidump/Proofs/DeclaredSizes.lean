import Minidump.Proofs.TableLayouts

/-!
# What decoders ask of declared sizes

A stream has a declared size, and the header of a table declares sizes of its own. Decoders
compare the one with the others, so that all entries of a list are in its stream. What they do
not compare is the part that is read before anything is known: a table header, or a record that
is all there is in its stream, is read wherever it lies in the file, even if the stream is too
short for it. That a header of a table is not shorter than it can be is asked of the thread info
list; the three others are decoded all the same, and then the entries start inside the header.

- `ListFormat.KeepsHeader` — a header is inside its stream, and the entries are behind it;
- `ListFormat.Holds.keepsHeader_iff` — that is so iff the header declares that it is not too
  short;
- `TableKind.scan_eq_ok_iff` — when a table is decoded;
- `MiscRecord.HasExtension` — a record and its stream are long enough for the longer form;
- `Scan.fixed_parts_as_declared` — the four tables and the three records;
- `Scan.fixed_parts_beyond_streams` — streams without a byte that are decoded.
-/

namespace Minidump

variable {image : Image} {location : Location}

/-! ## Tables -/

namespace ListFormat

variable {format : ListFormat} {header : format.header.Value} {entries : List format.entry.Value}

/-- The known part of a header is inside the stream, the header declares that it has this part,
and every entry starts behind it. -/
structure KeepsHeader (format : ListFormat) (location : Location) (header : format.header.Value) :
    Prop where
  size_le : format.header.size ≤ location.size.toNat
  headerSize_le : format.header.size ≤ format.headerSize header
  entry_behind : ∀ index < format.count header,
    location.offset.toNat + format.header.size ≤ format.entryOffset location header index

/-- That a header declares not to be too short is all it takes. -/
theorem Holds.keepsHeader_iff (h : format.Holds image location header entries) :
    format.KeepsHeader location header ↔ format.header.size ≤ format.headerSize header := by
  constructor
  · exact fun hkeeps => hkeeps.headerSize_le
  · intro hsize
    have hlaid : format.LaidOut image location header entries := ⟨h, hsize⟩
    refine ⟨hlaid.header_end_le, hsize, fun index _ => ?_⟩
    unfold entryOffset
    omega

end ListFormat

/-- A table is decoded iff the file holds it and what its entries refer to is there. Of the
thread info list alone it is also asked that the header is not too short. -/
theorem TableKind.scan_eq_ok_iff (kind : TableKind) (position : Nat) {as : List kind.Element} :
    (kind.scan image location).runFrom position = .ok as ↔
      ∃ header entries, kind.format.Holds image location header entries ∧
        (kind = .threadInfo → kind.format.header.size ≤ kind.format.headerSize header) ∧
        entries.mapM (kind.element image) = .ok as := by
  cases kind with
  | threadInfo =>
    show (Scan.threadInfo image location).runFrom position = .ok as ↔ _
    rw [Scan.runFrom_eq_of_gives (Scan.gives_threadInfo image location)]
    refine Image.threadInfo_eq_ok_iff.trans (exists_congr fun header => ?_)
    refine (and_congr_left fun _ => Image.exists_holds_mapM_ok.symm).trans ?_
    constructor
    · rintro ⟨⟨entries, hholds, has⟩, hsize⟩
      exact ⟨entries, hholds, fun _ => hsize, has⟩
    · rintro ⟨entries, hholds, hsize, has⟩
      exact ⟨⟨entries, hholds, has⟩, hsize rfl⟩
  | memoryInfo =>
    show (Scan.memoryInfo image location).runFrom position = .ok as ↔ _
    rw [Scan.runFrom_eq_of_gives (Scan.gives_memoryInfo image location)]
    refine Image.memoryInfo_eq_ok_iff.trans (exists_congr fun header => ?_)
    refine Image.exists_holds_mapM_ok.symm.trans ?_
    exact exists_congr fun entries => and_congr_right fun _ => (and_iff_right nofun).symm
  | unloadedModules =>
    show (Scan.unloadedModules image location).runFrom position = .ok as ↔ _
    rw [Scan.runFrom_eq_of_gives (Scan.gives_unloadedModules image location)]
    refine Image.unloadedModules_eq_ok_iff.trans (exists_congr fun header => ?_)
    exact exists_congr fun entries => and_congr_right fun _ => (and_iff_right nofun).symm
  | handles =>
    show (Scan.handles image location).runFrom position = .ok as ↔ _
    rw [Scan.runFrom_eq_of_gives (Scan.gives_handles image location)]
    refine Image.handles_eq_ok_iff.trans (exists_congr fun header => ?_)
    exact exists_congr fun entries => and_congr_right fun _ => (and_iff_right nofun).symm

/-! ## Records -/

/-- The record says that it has the longer form and that the clock rates in it are valid, and the
stream has room for the longer form. -/
structure MiscRecord.HasExtension (record : MiscRecord) (location : Location) : Prop where
  size_le : ExtendedMiscRecord.layout.size ≤ record.size.toNat
  in_stream : ExtendedMiscRecord.layout.size ≤ location.size.toNat
  has_flag : record.has MiscInfo.processorPowerFlag

namespace Image

theorem exceptionStream_eq_ok_iff {found : ExceptionStream} :
    image.exceptionStream location = .ok found ↔
      image.HoldsRecord RecordKind.exceptionStream.format location.offset.toNat found := by
  rw [exceptionStream_eq]
  exact @read_eq_ok_iff_holdsRecord _ RecordKind.exceptionStream.format _ _

theorem exists_optionalTextAt_iff {offset : UInt32} :
    (∃ name, image.optionalTextAt offset = .ok name) ↔
      (offset ≠ 0 → ∃ name, image.HoldsText offset.toNat name) := by
  unfold optionalTextAt
  by_cases hzero : offset = 0
  · rw [if_pos hzero]
    exact ⟨fun _ h => absurd hzero h, fun _ => ⟨none, rfl⟩⟩
  · rw [if_neg hzero]
    simp only [map_eq_ok_iff, textAt_eq_ok_iff]
    constructor
    · rintro ⟨_, name, hname, rfl⟩ -
      exact ⟨name, hname⟩
    · intro h
      obtain ⟨name, hname⟩ := h hzero
      exact ⟨some name, name, hname, rfl⟩

theorem exists_systemInfo_iff :
    (∃ info, image.systemInfo location = .ok info) ↔
      ∃ record : SystemRecord,
        image.HoldsRecord RecordKind.systemRecord.format location.offset.toNat record ∧
        (record.servicePackOffset ≠ 0 →
          ∃ name, image.HoldsText record.servicePackOffset.toNat name) := by
  have hread (record : SystemRecord) :
      image.read SystemRecord.layout location.offset.toNat = .ok record ↔
        image.HoldsRecord RecordKind.systemRecord.format location.offset.toNat record :=
    @read_eq_ok_iff_holdsRecord _ RecordKind.systemRecord.format _ _
  simp only [systemInfo_eq, bind_eq_ok_iff, hread, ← exists_optionalTextAt_iff]
  constructor
  · rintro ⟨_, record, hrecord, name, hname, -⟩
    exact ⟨record, hrecord, name, hname⟩
  · rintro ⟨record, hrecord, name, hname⟩
    exact ⟨_, record, hrecord, name, hname, rfl⟩

theorem exists_processorPower_iff {record : MiscRecord} :
    (∃ power, image.processorPower location record = .ok power) ↔
      (record.HasExtension location →
        location.offset.toNat + ExtendedMiscRecord.layout.size ≤ image.size) := by
  unfold processorPower
  by_cases hlong : ExtendedMiscRecord.layout.size ≤ record.size.toNat ∧
      ExtendedMiscRecord.layout.size ≤ location.size.toNat ∧
      record.has MiscInfo.processorPowerFlag
  · have hextension : record.HasExtension location := ⟨hlong.1, hlong.2.1, hlong.2.2⟩
    simp only [if_pos hlong, bind_eq_ok_iff]
    rw [← exists_read_iff]
    constructor
    · rintro ⟨_, extended, hread, -⟩ -
      exact ⟨extended, hread⟩
    · intro h
      obtain ⟨extended, hread⟩ := h hextension
      exact ⟨_, extended, hread, rfl⟩
  · have hextension : ¬ record.HasExtension location :=
      fun h => hlong ⟨h.size_le, h.in_stream, h.has_flag⟩
    simp only [if_neg hlong]
    exact ⟨fun _ h => absurd h hextension, fun _ => ⟨none, rfl⟩⟩

theorem exists_miscInfo_iff :
    (∃ info, image.miscInfo location = .ok info) ↔
      ∃ record : MiscRecord,
        image.HoldsRecord RecordKind.miscRecord.format location.offset.toNat record ∧
        (record.HasExtension location →
          location.offset.toNat + ExtendedMiscRecord.layout.size ≤ image.size) := by
  have hread (record : MiscRecord) :
      image.read MiscRecord.layout location.offset.toNat = .ok record ↔
        image.HoldsRecord RecordKind.miscRecord.format location.offset.toNat record :=
    @read_eq_ok_iff_holdsRecord _ RecordKind.miscRecord.format _ _
  simp only [miscInfo_eq, bind_eq_ok_iff, hread, ← exists_processorPower_iff]
  constructor
  · rintro ⟨_, record, hrecord, power, hpower, -⟩
    exact ⟨record, hrecord, power, hpower⟩
  · rintro ⟨record, hrecord, power, hpower⟩
    exact ⟨_, record, hrecord, power, hpower, rfl⟩

end Image

/-! ## Fixed parts and their streams -/

/-- **Fixed parts of streams, and the sizes that are declared for them.** A table is decoded iff
the file holds it as its header says and what its entries refer to is there. Its header is then
inside the stream, with every entry behind it, iff it declares that it is not too short, and this
is asked of the thread info list only. An exception is decoded iff it lies in the file, a system
record iff moreover its service pack can be read, if there is one, and a miscellaneous record iff
moreover its longer form lies in the file, if it has one; the declared size of the stream counts
for none of them except to tell whether there is a longer form. -/
theorem Scan.fixed_parts_as_declared (image : Image) (location : Location) (position : Nat) :
    (∀ (kind : TableKind) (as : List kind.Element),
        (kind.scan image location).runFrom position = .ok as ↔
          ∃ header entries, kind.format.Holds image location header entries ∧
            (kind = .threadInfo → kind.format.header.size ≤ kind.format.headerSize header) ∧
            entries.mapM (kind.element image) = .ok as) ∧
      (∀ (kind : TableKind) (header : kind.format.header.Value)
        (entries : List kind.format.entry.Value),
        kind.format.Holds image location header entries →
          (kind.format.KeepsHeader location header ↔
            kind.format.header.size ≤ kind.format.headerSize header)) ∧
      (∀ found, (exceptionStream image location).runFrom position = .ok found ↔
        image.HoldsRecord RecordKind.exceptionStream.format location.offset.toNat found) ∧
      ((∃ info, (systemInfo image location).runFrom position = .ok info) ↔
        ∃ record : SystemRecord,
          image.HoldsRecord RecordKind.systemRecord.format location.offset.toNat record ∧
          (record.servicePackOffset ≠ 0 →
            ∃ name, image.HoldsText record.servicePackOffset.toNat name)) ∧
      ((∃ info, (miscInfo image location).runFrom position = .ok info) ↔
        ∃ record : MiscRecord,
          image.HoldsRecord RecordKind.miscRecord.format location.offset.toNat record ∧
          (record.HasExtension location →
            location.offset.toNat + ExtendedMiscRecord.layout.size ≤ image.size)) := by
  simp only [runFrom_eq_of_gives (gives_exceptionStream image location),
    runFrom_eq_of_gives (gives_systemInfo image location),
    runFrom_eq_of_gives (gives_miscInfo image location)]
  refine ⟨?_, ?_, ?_, ?_, ?_⟩
  · exact fun kind as => kind.scan_eq_ok_iff position
  · exact fun kind header entries hholds => hholds.keepsHeader_iff
  · exact fun found => Image.exceptionStream_eq_ok_iff
  · exact Image.exists_systemInfo_iff
  · exact Image.exists_miscInfo_iff

/-- Streams without a byte are decoded: to records, and to tables without an entry whose headers
declare that they have no size. A stream with the length of one entry is decoded to an entry that
begins with the header. -/
theorem Scan.fixed_parts_beyond_streams :
    let nowhere : Location := ⟨0, 0⟩;
    let zeros : Image := ⟨⟨(List.replicate 168 0).toArray⟩⟩;
    let infos : Image := ⟨⟨(MemoryInfoHeader.layout.encode ⟨0, 48, 0⟩).toArray⟩⟩;
    let table : Image := ⟨⟨(TableHeader.layout.encode ⟨0, 24, 0⟩).toArray⟩⟩;
    let handleTable : Image := ⟨⟨(HandleTableHeader.layout.encode ⟨0, 32, 0, 0⟩).toArray⟩⟩;
    let overlapping : Image :=
      ⟨⟨(MemoryInfoHeader.layout.encode ⟨0, 48, 1⟩ ++ List.replicate 32 0).toArray⟩⟩;
    (¬ ∀ found, (exceptionStream zeros nowhere).runFrom 0 = .ok found →
        RecordKind.exceptionStream.format.size ≤ nowhere.size.toNat) ∧
      (¬ ∀ found, (systemInfo zeros nowhere).runFrom 0 = .ok found →
        RecordKind.systemRecord.format.size ≤ nowhere.size.toNat) ∧
      (¬ ∀ found, (miscInfo zeros nowhere).runFrom 0 = .ok found →
        RecordKind.miscRecord.format.size ≤ nowhere.size.toNat) ∧
      (¬ ∀ found, (memoryInfo infos nowhere).runFrom 0 = .ok found →
        ListFormat.memoryInfo.header.size ≤ nowhere.size.toNat) ∧
      (¬ ∀ found, (unloadedModules table nowhere).runFrom 0 = .ok found →
        ListFormat.unloadedModules.header.size ≤ nowhere.size.toNat) ∧
      (¬ ∀ found, (handles handleTable nowhere).runFrom 0 = .ok found →
        ListFormat.handles.header.size ≤ nowhere.size.toNat) ∧
      (memoryInfo overlapping ⟨48, 0⟩).runFrom 0
        = .ok [⟨0x3000000000, 1, 0, 0, 0, 0, 0, 0, 0⟩] := by
  intro nowhere zeros infos table handleTable overlapping
  have hexception : ∃ found, (exceptionStream zeros nowhere).runFrom 0 = .ok found := by
    have hfile : nowhere.offset.toNat + RecordKind.exceptionStream.format.size ≤ zeros.size := by
      decide +kernel
    obtain ⟨found, hfound⟩ := Image.exists_holdsRecord_iff.mpr hfile
    exact ⟨found, Image.exceptionStream_eq_ok_iff.mpr hfound⟩
  have hsystem : (systemInfo zeros nowhere).runFrom 0
      = .ok ⟨⟨0, 0, 0, 0, 0, 0, 0, 0, 0, 0, 0, 0⟩, ""⟩ := by decide +kernel
  have hmisc : (miscInfo zeros nowhere).runFrom 0 = .ok ⟨none, none, none⟩ := by decide +kernel
  have hinfos : (memoryInfo infos nowhere).runFrom 0 = .ok [] := by decide +kernel
  have htable : (unloadedModules table nowhere).runFrom 0 = .ok [] := by decide +kernel
  have hhandles : (handles handleTable nowhere).runFrom 0 = .ok [] := by decide +kernel
  refine ⟨fun h => ?_, fun h => ?_, fun h => ?_, fun h => ?_, fun h => ?_, fun h => ?_, ?_⟩
  · obtain ⟨found, hfound⟩ := hexception
    exact absurd (h found hfound) (by decide)
  · exact absurd (h _ hsystem) (by decide)
  · exact absurd (h _ hmisc) (by decide)
  · exact absurd (h _ hinfos) (by decide)
  · exact absurd (h _ htable) (by decide)
  · exact absurd (h _ hhandles) (by decide)
  · decide +kernel

end Minidump
