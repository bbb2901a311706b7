import Minidump.Proofs.TableLayouts

/-!
# Every list decoder is one scan

The nine list decoders are written for themselves, each with the parts that its list has. But
they all take the same steps in the same order: they read the header, refuse declared sizes that
are too small, measure the whole list against the declared size of its stream, and only then go
to the entries, reading them all at once or one by one. So a decoder is one scan with different
parts, and what follows from the order of the steps is said once.

- `ListKind` — the nine lists, with `format`, `Element` and `scan`;
- `ListKind.Admits`, `ListKind.needed`, `ListKind.decodeAt` — what a header has to declare, how
  many bytes its list takes, and the entries at given offsets;
- `ListKind.scan_eq` — the one order of steps;
- `ListKind.runFrom_scan` — what it comes to: reads at offsets;
- `ListKind.run_scan_of_header` — from a header that is there and declares enough, what it comes
  to and where in the file it ends.
-/

namespace Minidump

namespace TableKind

/-- How messages name a kind of list. -/
def entryTable : TableKind → EntryTable
  | threadInfo => .threadInfo
  | memoryInfo => .memoryInfo
  | unloadedModules => .unloadedModule
  | handles => .handle

/-- What is asked of the declared size of a header: nothing, but in the thread info list. -/
def headerCheck : (kind : TableKind) → kind.format.header.Value → Result Unit
  | threadInfo => fun (header : TableHeader) =>
    if header.headerSize.toNat < TableHeader.layout.size then
      .error (.smallThreadInfoHeader header.headerSize.toNat)
    else .ok ()
  | memoryInfo | unloadedModules | handles => fun _ => .ok ()

/-- The scan of the entry at an offset. -/
def entryAt (image : Image) : (kind : TableKind) → Nat → Scan kind.Element
  | threadInfo => Scan.recordAt image ThreadInfo.layout
  | memoryInfo => Scan.recordAt image MemoryInfo.layout
  | unloadedModules => Scan.unloadedModuleAt image
  | handles => Scan.handleAt image

end TableKind

variable {image : Image} {location : Location}

/-! ## One order of steps -/

/-- A refusal that is a result is a refusal of what follows. -/
theorem Scan.lift_unless_bind {α β : Type} {condition : Prop} [Decidable condition]
    (cause : Error) (result : Result α) (f : α → Scan β) :
    ((liftM (if condition then .error cause else result) : Scan α) >>= f)
      = if condition then throw cause else liftM result >>= f := by
  by_cases h : condition
  · rw [if_pos h, if_pos h]
    rfl
  · rw [if_neg h, if_neg h]

namespace TableKind

/-- In every table, entries that are too small are refused before anything else is asked. -/
theorem scan_eq (kind : TableKind) :
    kind.scan image location = (Scan.recordAt image kind.format.header.layout
        location.offset.toNat >>= fun header =>
      if kind.format.entrySize header < kind.format.entry.size then
        throw (.smallEntries kind.entryTable (kind.format.entrySize header))
      else do
        (kind.headerCheck header : Result Unit)
        location.checkFits (kind.format.headerSize header) (kind.format.count header)
          (kind.format.entrySize header)
        Scan.entries (kind.entryAt image) (kind.format.entrySize header)
          (kind.format.count header) (location.offset.toNat + kind.format.headerSize header)) := by
  cases kind with
  | threadInfo =>
    have hcheck (header : TableHeader) (rest : Unit → Scan (List ThreadInfo)) :
        ((liftM (headerCheck .threadInfo header) : Scan Unit) >>= rest)
          = if header.headerSize.toNat < TableHeader.layout.size then
              throw (.smallThreadInfoHeader header.headerSize.toNat)
            else rest () :=
      Scan.lift_unless_bind _ _ rest
    refine congrArg (Scan.recordAt image _ _ >>= ·) (funext fun header => ?_)
    refine congrArg (ite _ _) (Eq.trans ?_ (hcheck header _).symm)
    rfl
  | memoryInfo => rfl
  | unloadedModules => rfl
  | handles => rfl

/-- An entry of a table is read and then made into what it stands for. -/
theorem gives_entryAt (image : Image) (kind : TableKind) (offset : Nat) :
    Gives (kind.entryAt image offset)
      (image.read kind.format.entry.layout offset >>= kind.element image) := by
  cases kind with
  | threadInfo =>
    show Gives (Scan.recordAt image ThreadInfo.layout offset)
      (image.read ThreadInfo.layout offset >>= pure)
    rw [bind_pure]
    exact Scan.gives_recordAt image _ offset
  | memoryInfo =>
    show Gives (Scan.recordAt image MemoryInfo.layout offset)
      (image.read MemoryInfo.layout offset >>= pure)
    rw [bind_pure]
    exact Scan.gives_recordAt image _ offset
  | unloadedModules => exact Scan.gives_unloadedModuleAt image offset
  | handles => exact Scan.gives_handleAt image offset

/-- Going from entry to entry is going from offset to offset. -/
theorem gives_entries (kind : TableKind) (header : kind.format.header.Value) :
    Gives (Scan.entries (kind.entryAt image) (kind.format.entrySize header)
        (kind.format.count header) (location.offset.toNat + kind.format.headerSize header))
      (((List.range (kind.format.count header)).map (kind.format.entryOffset location header)).mapM
        fun offset => image.read kind.format.entry.layout offset >>= kind.element image) := by
  rw [List.mapM_map]
  exact Scan.gives_entries (kind.gives_entryAt image) _ _ _

end TableKind

/-- The lists of a dump: those behind a header of a known size, and the tables. -/
inductive ListKind where
  | threads
  | threadsEx
  | modules
  | memory
  | memory64
  | table (kind : TableKind)

namespace ListKind

/-- How a kind of list is stored. -/
def format : ListKind → ListFormat
  | threads => .threads
  | threadsEx => .threadsEx
  | modules => .modules
  | memory => .memory
  | memory64 => .memory64
  | table kind => kind.format

/-- What a kind of list is a list of. -/
def Element : ListKind → Type
  | threads => Thread
  | threadsEx => ThreadEx
  | modules => Module
  | memory => MemoryDescriptor
  | memory64 => MemoryDescriptor64
  | table kind => kind.Element

/-- The decoder of a kind of list. -/
def scan (image : Image) (location : Location) : (kind : ListKind) → Scan (List kind.Element)
  | threads => Scan.threads image location
  | threadsEx => Scan.threadsEx image location
  | modules => Scan.modules image location
  | memory => MemoryList.ranges <$> Scan.memoryList image location
  | memory64 => Memory64List.ranges <$> Scan.memory64List image location
  | table kind => kind.scan image location

/-- What an entry stands for, with all that it refers to. -/
def element (image : Image) : (kind : ListKind) → kind.format.entry.Value → Result kind.Element
  | threads => fun entry => .ok (Thread.ofEntry entry)
  | threadsEx => fun entry => .ok (ThreadEx.ofEntry entry)
  | modules => image.moduleOfEntry
  | memory => fun range => .ok range
  | memory64 => fun range => .ok range
  | table kind => kind.element image

/-- The entries at given offsets. Those of a table are decoded one by one, those of other lists
are all read before any of them is decoded. -/
def decodeAt (image : Image) (kind : ListKind) (offsets : List Nat) : Result (List kind.Element) :=
  match kind with
  | table kind => offsets.mapM fun offset =>
      image.read kind.format.entry.layout offset >>= kind.element image
  | kind => offsets.mapM (image.read kind.format.entry.layout) >>= fun entries =>
      entries.mapM (kind.element image)

/-- The sizes that a header declares are not too small: an entry has room, and the header of
the thread info list, of which alone this is asked, is as long as what is known of it. -/
def Admits (kind : ListKind) (header : kind.format.header.Value) : Prop :=
  kind.format.entry.size ≤ kind.format.entrySize header ∧
    (kind = .table .threadInfo → kind.format.header.size ≤ kind.format.headerSize header)

/-- The number of bytes that a list takes by its header, as an exact number. -/
def needed (kind : ListKind) (header : kind.format.header.Value) : Nat :=
  kind.format.headerSize header + kind.format.count header * kind.format.entrySize header

/-- Where the entries of a list are. -/
def offsets (kind : ListKind) (location : Location) (header : kind.format.header.Value) :
    List Nat :=
  (List.range (kind.format.count header)).map (kind.format.entryOffset location header)

/-- What is asked of the sizes that a header declares, with the cause if they are too small. -/
def check : (kind : ListKind) → kind.format.header.Value → Result Unit
  | table kind => fun header =>
    if kind.format.entrySize header < kind.format.entry.size then
      .error (.smallEntries kind.entryTable (kind.format.entrySize header))
    else kind.headerCheck header
  | threads | threadsEx | modules | memory | memory64 => fun _ => .ok ()

/-- What a decoder does with the entries behind a header of a known size, once all are read. -/
def finish (image : Image) : (kind : ListKind) → List kind.format.entry.Value →
    Scan (List kind.Element)
  | threads => fun entries => pure (entries.map Thread.ofEntry)
  | threadsEx => fun entries => pure (entries.map ThreadEx.ofEntry)
  | modules => fun entries => entries.mapM (Scan.moduleOfEntry image)
  | memory => fun entries => pure entries
  | memory64 => fun entries => pure entries
  | table kind => fun entries => liftM (entries.mapM (kind.element image))

/-- What a decoder does once a list has been measured. -/
def readEntries (image : Image) (location : Location) (kind : ListKind)
    (header : kind.format.header.Value) : Scan (List kind.Element) :=
  match kind with
  | table kind => Scan.entries (kind.entryAt image) (kind.format.entrySize header)
      (kind.format.count header) (location.offset.toNat + kind.format.headerSize header)
  | kind => Scan.nextMany image kind.format.entry.layout (kind.format.count header) >>=
      kind.finish image

theorem check_eq_ok_iff (kind : ListKind) (header : kind.format.header.Value) :
    kind.check header = .ok () ↔ kind.Admits header := by
  unfold Admits
  cases kind with
  | threads | threadsEx | modules | memory | memory64 =>
    exact ⟨fun _ => ⟨Nat.le_refl _, nofun⟩, fun _ => rfl⟩
  | table kind =>
    refine refused_eq_ok_iff.trans (and_congr Nat.not_lt ?_)
    cases kind with
    | threadInfo =>
      refine refused_eq_ok_iff.trans ⟨fun h _ => Nat.not_lt.mp h.1, fun h => ⟨?_, rfl⟩⟩
      exact Nat.not_lt.mpr (h rfl)
    | memoryInfo | unloadedModules | handles => exact ⟨fun _ => nofun, fun _ => rfl⟩

/-- Every decoder is one scan with different parts: the header, what is asked of it, the
measure, and then the entries. -/
theorem scan_eq (kind : ListKind) :
    kind.scan image location = (do
      let header ← Scan.recordAt image kind.format.header.layout location.offset.toNat
      (kind.check header : Result Unit)
      location.checkFits (kind.format.headerSize header) (kind.format.count header)
        (kind.format.entrySize header)
      kind.readEntries image location header) := by
  cases kind with
  | threads =>
    show Scan.threads image location = _
    unfold Scan.threads Scan.countedList
    simp only [bind_assoc]
    rfl
  | threadsEx =>
    show Scan.threadsEx image location = _
    unfold Scan.threadsEx Scan.countedList
    simp only [bind_assoc]
    rfl
  | modules =>
    show Scan.modules image location = _
    unfold Scan.modules Scan.countedList
    simp only [bind_assoc]
    rfl
  | memory =>
    show MemoryList.ranges <$> Scan.memoryList image location = _
    unfold Scan.memoryList Scan.countedList
    simp only [bind_assoc, map_eq_pure_bind, pure_bind]
    rfl
  | memory64 =>
    show Memory64List.ranges <$> Scan.memory64List image location = _
    unfold Scan.memory64List
    simp only [bind_assoc, map_eq_pure_bind, pure_bind]
    rfl
  | table kind =>
    have hcheck (header : kind.format.header.Value) (rest : Unit → Scan (List kind.Element)) :
        ((liftM ((table kind).check header) : Scan Unit) >>= rest)
          = if kind.format.entrySize header < kind.format.entry.size then
              throw (.smallEntries kind.entryTable (kind.format.entrySize header))
            else liftM (kind.headerCheck header) >>= rest :=
      Scan.lift_unless_bind _ _ rest
    refine kind.scan_eq.trans (congrArg (Scan.recordAt image _ _ >>= ·) (funext fun header => ?_))
    exact (hcheck header _).symm

/-! ## What the steps come to -/

/-- What is made of entries that were read is made of each for itself. -/
theorem gives_finish (kind : ListKind) (entries : List kind.format.entry.Value) :
    Gives (kind.finish image entries) (entries.mapM (kind.element image)) := by
  cases kind with
  | threads => exact gives_map_ok Thread.ofEntry entries
  | threadsEx => exact gives_map_ok ThreadEx.ofEntry entries
  | modules => exact gives_mapM (Scan.gives_moduleOfEntry image) entries
  | memory =>
    have h : Gives (pure (entries.map id) : Scan _) _ := gives_map_ok id entries
    rwa [List.map_id] at h
  | memory64 =>
    have h : Gives (pure (entries.map id) : Scan _) _ := gives_map_ok id entries
    rwa [List.map_id] at h
  | table kind => exact gives_lift _

/-- Behind a header of a known size, going from record to record is going from offset to
offset. -/
theorem fst_run_nextMany {format : ListFormat} (hpacked : format.IsPacked)
    (header : format.header.Value) :
    ((Scan.nextMany image format.entry.layout (format.count header)).run.run
        (location.offset.toNat + format.header.size)).1 =
      ((List.range (format.count header)).map (format.entryOffset location header)).mapM
        (image.read format.entry.layout) := by
  rw [Scan.runFrom_nextMany, Image.records, List.mapM_map]
  refine congrArg (List.mapM · _) (funext fun index => ?_)
  rw [Function.comp_apply, hpacked.entryOffset_eq, format.entry.size_layout]

/-- Once a list has been measured, its entries are decoded at their offsets. -/
theorem fst_run_readEntries (kind : ListKind) (header : kind.format.header.Value) :
    ((kind.readEntries image location header).run.run
        (location.offset.toNat + kind.format.header.size)).1 =
      kind.decodeAt image (kind.offsets location header) := by
  cases kind with
  | threads | threadsEx | modules | memory =>
    exact fst_run_bind (fst_run_nextMany (ListFormat.isPacked_counted _) header) (gives_finish _)
  | memory64 =>
    exact fst_run_bind (fst_run_nextMany ListFormat.isPacked_memory64 header) (gives_finish _)
  | table kind =>
    exact kind.gives_entries header _

/-- What a decoder comes to: a computation that reads the file at offsets, in the order of its
steps. -/
theorem runFrom_scan (kind : ListKind) (position : Nat) :
    (kind.scan image location).runFrom position = (do
      let header ← image.read kind.format.header.layout location.offset.toNat
      kind.check header
      location.checkFits (kind.format.headerSize header) (kind.format.count header)
        (kind.format.entrySize header)
      kind.decodeAt image (kind.offsets location header)) := by
  unfold Scan.runFrom
  rw [scan_eq, Scan.run_recordAt_bind]
  refine congrArg _ (funext fun header => ?_)
  rw [Scan.run_lift_bind]
  refine congrArg _ (funext fun _ => ?_)
  rw [Scan.run_lift_bind, kind.format.header.size_layout]
  exact congrArg _ (funext fun _ => fst_run_readEntries kind header)

/-- From a header that is there and declares enough, the measure decides whether the entries
are gone to at all. If they are not, nothing has been read behind the header. -/
theorem run_scan_of_header (kind : ListKind) {header : kind.format.header.Value}
    (hheader : image.HoldsRecord kind.format.header location.offset.toNat header)
    (hadmits : kind.Admits header) (position : Nat) :
    (kind.scan image location).run.run position =
      match location.checkFits (kind.format.headerSize header) (kind.format.count header)
          (kind.format.entrySize header) with
      | .ok () => (kind.readEntries image location header).run.run
          (location.offset.toNat + kind.format.header.size)
      | .error cause => (.error cause, location.offset.toNat + kind.format.header.size) := by
  have hread := Image.read_eq_ok_iff_holdsRecord.mpr hheader
  have hcheck := (kind.check_eq_ok_iff header).mpr hadmits
  rw [scan_eq, Scan.run_recordAt_bind_of_read hread, hcheck, Scan.run_lift_bind_eq]
  show ((liftM (location.checkFits _ _ _) : Scan Unit) >>= _).run.run _ = _
  rw [Scan.run_lift_bind_eq, kind.format.header.size_layout]
  cases location.checkFits (kind.format.headerSize header) (kind.format.count header)
    (kind.format.entrySize header) <;> rfl

/-- There are as many elements as offsets. -/
theorem length_of_decodeAt (kind : ListKind) {offsets : List Nat} {as : List kind.Element}
    (h : kind.decodeAt image offsets = .ok as) : as.length = offsets.length := by
  cases kind with
  | threads | threadsEx | modules | memory | memory64 =>
    obtain ⟨entries, hentries, has⟩ := bind_eq_ok_iff.mp h
    exact (getElem?_of_mapM has).1.trans (getElem?_of_mapM hentries).1
  | table kind => exact (getElem?_of_mapM h).1

end ListKind

end Minidump
