import Minidump.Proofs.StoredLists
import Minidump.Proofs.StoredText

/-!
# One table in different layouts

Four lists declare how long their header is and how far their entries are apart, so that a
later version of the format can append to both. A file that holds such a list in a layout that
leaves room for what is known has it decoded to what its entries stand for, one by one, and to
nothing else: the offsets, the declared sizes and the bytes in between do not occur in the
result. Two files that hold the same entries therefore give the same result, whatever their
layouts are, if names that the entries refer to are the same.

- `Image.SharesString` — the same string lies at an offset of two files;
- `TableKind` — the four lists, with `TableKind.element` for what an entry stands for and
  `TableKind.names` for the names it refers to;
- `TableKind.scan_of_laidOut` — a list that is laid out is decoded entry by entry;
- `TableKind.same_in_every_layout` — two layouts of one list are decoded alike.
-/

namespace Minidump

namespace Image

variable {α : Type} {image : Image} {location : Location}

/-- Entries that lie in the file are decoded each for itself, and the first one that cannot be
decoded is the cause of the failure. -/
theorem stridedList_of_holds {format : ListFormat} {header : format.header.Value}
    {entries : List format.entry.Value} (h : format.Holds image location header entries)
    {entryAt : Nat → Result α} {element : format.entry.Value → Result α}
    (hentryAt : ∀ offset, entryAt offset = image.read format.entry.layout offset >>= element) :
    stridedList entryAt location (format.headerSize header) (format.count header)
      (format.entrySize header) = entries.mapM element := by
  have hfits := ListFormat.checkFits_eq_ok_iff.mpr h.in_stream
  unfold stridedList
  rw [hfits, ← h.length_eq]
  refine mapM_range_of_getElem? fun index entry hentry => ?_
  have hread := Image.read_eq_ok_iff_holdsRecord.mpr (h.entry_at index entry hentry)
  rw [ListFormat.entryOffset] at hread
  rw [hentryAt, hread]
  rfl

/-- A table is decoded as far as its entries go, once its header has been read and leaves room
for an entry. -/
theorem table_of_holds {format : ListFormat} {header : format.header.Value}
    {entries : List format.entry.Value} (h : format.Holds image location header entries)
    {cause : format.header.Value → Error} {entryAt : Nat → Result α}
    {element : format.entry.Value → Result α}
    (hentryAt : ∀ offset, entryAt offset = image.read format.entry.layout offset >>= element) :
    (image.read format.header.layout location.offset.toNat >>= fun header =>
        if format.entrySize header < format.entry.size then .error (cause header)
        else stridedList entryAt location (format.headerSize header) (format.count header)
          (format.entrySize header)) = entries.mapM element := by
  have hheader := Image.read_eq_ok_iff_holdsRecord.mpr h.header_at
  have hroom : ¬ format.entrySize header < format.entry.size := Nat.not_lt.mpr h.entrySize_le
  calc _ = if format.entrySize header < format.entry.size then .error (cause header)
        else stridedList entryAt location (format.headerSize header) (format.count header)
          (format.entrySize header) := by rw [hheader]; rfl
    _ = stridedList entryAt location (format.headerSize header) (format.count header)
          (format.entrySize header) := if_neg hroom
    _ = entries.mapM element := stridedList_of_holds h hentryAt

/-- The same string lies at an offset of two files, well-formed or not. -/
def SharesString (image other : Image) (offset : Nat) : Prop :=
  ∃ bs, image.HoldsString offset bs ∧ other.HoldsString offset bs

variable {other : Image}

theorem SharesString.textAt_eq {offset : Nat} (h : image.SharesString other offset) :
    image.textAt offset = other.textAt offset := by
  obtain ⟨bs, himage, hother⟩ := h
  rw [textAt_of_holdsString himage, textAt_of_holdsString hother]

theorem SharesString.optionalTextAt_eq {offset : UInt32}
    (h : offset ≠ 0 → image.SharesString other offset.toNat) :
    image.optionalTextAt offset = other.optionalTextAt offset := by
  unfold optionalTextAt
  by_cases hzero : offset = 0
  · rw [if_pos hzero, if_pos hzero]
  · rw [if_neg hzero, if_neg hzero, (h hzero).textAt_eq]

end Image

/-! ## The four lists -/

/-- The lists whose header declares its own size and that of an entry. -/
inductive TableKind where
  | threadInfo
  | memoryInfo
  | unloadedModules
  | handles

namespace TableKind

/-- How a kind of list is stored. -/
def format : TableKind → ListFormat
  | threadInfo => .threadInfo
  | memoryInfo => .memoryInfo
  | unloadedModules => .unloadedModules
  | handles => .handles

/-- What a kind of list is a list of. -/
def Element : TableKind → Type
  | threadInfo => ThreadInfo
  | memoryInfo => MemoryInfo
  | unloadedModules => UnloadedModule
  | handles => Handle

/-- What an entry stands for, with the names that it refers to. -/
def element (image : Image) : (kind : TableKind) → kind.format.entry.Value → Result kind.Element
  | threadInfo => fun info => .ok info
  | memoryInfo => fun info => .ok info
  | unloadedModules => image.unloadedModuleOfEntry
  | handles => image.handleOfEntry

/-- The offsets of the names that an entry refers to. A handle can have no name. -/
def names : (kind : TableKind) → kind.format.entry.Value → List UInt32
  | threadInfo => fun _ => []
  | memoryInfo => fun _ => []
  | unloadedModules => fun (entry : UnloadedModuleEntry) => [entry.nameOffset]
  | handles => fun (entry : HandleDescriptor) =>
    [entry.typeNameOffset, entry.objectNameOffset].filter (· ≠ 0)

/-- The decoder of a kind of list. -/
def scan (image : Image) (location : Location) : (kind : TableKind) → Scan (List kind.Element)
  | threadInfo => Scan.threadInfo image location
  | memoryInfo => Scan.memoryInfo image location
  | unloadedModules => Scan.unloadedModules image location
  | handles => Scan.handles image location

variable {image other : Image}

/-- A list that is laid out is decoded entry by entry. -/
theorem scan_of_laidOut (kind : TableKind) {location : Location}
    {header : kind.format.header.Value} {entries : List kind.format.entry.Value}
    (h : kind.format.LaidOut image location header entries) (position : Nat) :
    (kind.scan image location).runFrom position = entries.mapM (kind.element image) := by
  cases kind with
  | threadInfo =>
    -- here alone a short header is refused, but this one is not short
    have hheader : image.read TableHeader.layout location.offset.toNat = .ok header :=
      Image.read_eq_ok_iff_holdsRecord.mpr h.header_at
    have hroom : ¬ (TableHeader.entrySize header).toNat < ThreadInfo.layout.size :=
      Nat.not_lt.mpr h.entrySize_le
    have hlong : ¬ (TableHeader.headerSize header).toNat < TableHeader.layout.size :=
      Nat.not_lt.mpr h.headerSize_le
    have hentries := Image.stridedList_of_holds h.toHolds fun _ => (bind_pure _).symm
    show (Scan.threadInfo image location).runFrom position = _
    rw [Scan.runFrom_eq_of_gives (Scan.gives_threadInfo image location), Image.threadInfo_eq, hheader]
    exact (if_neg hroom).trans ((if_neg hlong).trans hentries)
  | memoryInfo =>
    show (Scan.memoryInfo image location).runFrom position = _
    rw [Scan.runFrom_eq_of_gives (Scan.gives_memoryInfo image location), Image.memoryInfo_eq]
    exact Image.table_of_holds h.toHolds fun _ => (bind_pure _).symm
  | unloadedModules =>
    show (Scan.unloadedModules image location).runFrom position = _
    rw [Scan.runFrom_eq_of_gives (Scan.gives_unloadedModules image location), Image.unloadedModules_eq]
    exact Image.table_of_holds h.toHolds fun _ => rfl
  | handles =>
    show (Scan.handles image location).runFrom position = _
    rw [Scan.runFrom_eq_of_gives (Scan.gives_handles image location), Image.handles_eq]
    exact Image.table_of_holds h.toHolds fun _ => rfl

/-- What an entry stands for is the same in two files with the same names. -/
theorem element_eq_of_sharesString (kind : TableKind) {entry : kind.format.entry.Value}
    (h : ∀ offset ∈ kind.names entry, image.SharesString other offset.toNat) :
    kind.element image entry = kind.element other entry := by
  cases kind with
  | threadInfo => rfl
  | memoryInfo => rfl
  | unloadedModules =>
    have hname := (h _ (List.mem_singleton.mpr rfl)).textAt_eq
    show image.unloadedModuleOfEntry entry = other.unloadedModuleOfEntry entry
    unfold Image.unloadedModuleOfEntry
    rw [hname]
  | handles =>
    have hname (offset : UInt32)
        (hoffset : offset ∈ [HandleDescriptor.typeNameOffset entry, entry.objectNameOffset]) :
        image.optionalTextAt offset = other.optionalTextAt offset :=
      Image.SharesString.optionalTextAt_eq fun hzero =>
        h offset (List.mem_filter.mpr ⟨hoffset, decide_eq_true hzero⟩)
    show image.handleOfEntry entry = other.handleOfEntry entry
    unfold Image.handleOfEntry
    rw [hname _ (by simp), hname _ (by simp)]

/-- **Tables are decoded alike in every layout.** Take two files that hold the same entries of a
thread info, memory info, unloaded module or handle list, each at a location of its own, behind a
header that is at least as long as what is known of it, and as far apart as its header says, but
not closer than what is known of an entry; and let the names that the entries refer to be the same
strings in both, well-formed or not. Then the list is decoded from both with the same result, be
it a failure: it is that of decoding the entries one by one, and no other byte of the files has a
part in it. -/
theorem same_in_every_layout (kind : TableKind) {location otherLocation : Location}
    {header otherHeader : kind.format.header.Value} {entries : List kind.format.entry.Value}
    (h : kind.format.LaidOut image location header entries)
    (hother : kind.format.LaidOut other otherLocation otherHeader entries)
    (hnames : ∀ entry ∈ entries, ∀ offset ∈ kind.names entry,
      image.SharesString other offset.toNat)
    (position otherPosition : Nat) :
    (kind.scan image location).runFrom position
        = (kind.scan other otherLocation).runFrom otherPosition ∧
      (kind.scan image location).runFrom position = entries.mapM (kind.element image) := by
  have helements : entries.mapM (kind.element image) = entries.mapM (kind.element other) :=
    mapM_congr_of_mem fun entry hentry => kind.element_eq_of_sharesString (hnames entry hentry)
  have himage := kind.scan_of_laidOut h position
  have hsame := kind.scan_of_laidOut hother otherPosition
  exact ⟨himage.trans (helements.trans hsame.symm), himage⟩

/-- Two handles with the same name, once without a gap and once with a longer header and longer
descriptors, at another place of a longer file. -/
theorem same_in_every_layout_of_handles :
    let name : List UInt8 := [0xff, 2, 0, 0, 0, 0x41, 0];
    let first : HandleDescriptor := ⟨4, 1, 0, 0, 0, 1, 2⟩;
    let second : HandleDescriptor := ⟨8, 0, 1, 0, 0, 1, 2⟩;
    let entries : List ListFormat.handles.entry.Value := [first, second];
    let header : HandleTableHeader := ⟨16, 32, 2, 0⟩;
    let longHeader : HandleTableHeader := ⟨18, 35, 2, 9⟩;
    let image : Image := ⟨⟨(name ++ HandleTableHeader.layout.encode header
      ++ HandleDescriptor.layout.encode first ++ HandleDescriptor.layout.encode second).toArray⟩⟩;
    let other : Image := ⟨⟨(name ++ [7, 7, 7] ++ HandleTableHeader.layout.encode longHeader
      ++ [1, 1] ++ HandleDescriptor.layout.encode first ++ [2, 2, 2]
      ++ HandleDescriptor.layout.encode second ++ [3, 3, 3, 3]).toArray⟩⟩;
    handles.format.LaidOut image ⟨80, 7⟩ header entries ∧
      handles.format.LaidOut other ⟨88, 10⟩ longHeader entries ∧ image.SharesString other 1 ∧
      (Scan.handles image ⟨80, 7⟩).runFrom 0 = (Scan.handles other ⟨88, 10⟩).runFrom 3 ∧
      (Scan.handles image ⟨80, 7⟩).runFrom 0
        = .ok [⟨4, some "A", none, 0, 0, 1, 2⟩, ⟨8, none, some "A", 0, 0, 1, 2⟩] := by
  intro name first second entries header longHeader image other
  have himage : handles.format.LaidOut image ⟨80, 7⟩ header entries :=
    @of_decide_eq_true _ (ListFormat.decidableLaidOut _ _ _ _ _) (by decide +kernel)
  have hother : handles.format.LaidOut other ⟨88, 10⟩ longHeader entries :=
    @of_decide_eq_true _ (ListFormat.decidableLaidOut _ _ _ _ _) (by decide +kernel)
  have hname : image.SharesString other 1 :=
    ⟨[0x41, 0], ⟨by decide, by decide +kernel⟩, ⟨by decide, by decide +kernel⟩⟩
  have hnames : ∀ entry ∈ entries, ∀ offset ∈ handles.names entry,
      image.SharesString other offset.toNat := by
    have hfirst : handles.names first = [1] := by decide +kernel
    have hsecond : handles.names second = [1] := by decide +kernel
    have hoffsets : ∀ entry ∈ entries, handles.names entry = [1] :=
      List.forall_mem_cons.mpr ⟨hfirst, List.forall_mem_singleton.mpr hsecond⟩
    intro entry hentry offset hoffset
    rw [hoffsets entry hentry, List.mem_singleton] at hoffset
    rw [hoffset]
    exact hname
  refine ⟨himage, hother, hname, ?_, by decide +kernel⟩
  exact (same_in_every_layout handles himage hother hnames 0 3).1

end TableKind

end Minidump
