import Minidump.Proofs.Decoders

/-!
# Decoders as reads at offsets

Some decoders read their entries one after the other, others go from offset to offset, and
texts and records are read in between. Each of them is, in the end, a computation that
reads the file at offsets which it finds in what it has read before. This file writes every
decoder that way, with neither a position nor an order of reads left in it.

- `Image.records`, `Image.countedList`, `Image.textAt`, `Image.optionalTextAt` — the parts
  that the decoders share;
- `Image.moduleOfEntry`, `Image.unloadedModuleAt`, `Image.handleAt` — entries that refer to
  other places of the file;
- `Scan.runFrom_nextMany` — records that are read one after the other lie `size` bytes
  apart;
- `Image.threads_eq` to `Image.wideComment_eq` — one equation for each decoder.
-/

namespace Minidump

variable {α β : Type}

namespace Image

/-- A number of records, back to back from an offset on. -/
def records (image : Image) (layout : Layout α) (count offset : Nat) : Result (List α) :=
  (List.range count).mapM fun index => image.read layout (offset + index * layout.size)

/-- The entries of a list that starts with their count. -/
def countedList (image : Image) (entry : Layout α) (location : Location) : Result (List α) := do
  let header ← image.read CountHeader.layout location.offset.toNat
  location.checkFits CountHeader.layout.size header.count.toNat entry.size
  image.records entry header.count.toNat (location.offset.toNat + CountHeader.layout.size)

/-- The entries of a list that declares the sizes of its header and of an entry. -/
def stridedList (entryAt : Nat → Result α) (location : Location)
    (headerSize count entrySize : Nat) : Result (List α) := do
  location.checkFits headerSize count entrySize
  (List.range count).mapM fun index =>
    entryAt (location.offset.toNat + headerSize + index * entrySize)

/-- The text at an offset: the number of its bytes, then its UTF-16 units. -/
def textAt (image : Image) (offset : Nat) : Result String := do
  let length ← image.read .u32 offset
  let bs ← image.readBytes (offset + Layout.u32.size) length.toNat
  Utf16.decode bs

/-- The text at an offset, where offset zero means that there is none. -/
def optionalTextAt (image : Image) (offset : UInt32) : Result (Option String) :=
  if offset = 0 then pure none else some <$> image.textAt offset.toNat

/-- The bytes of a location. -/
def block (image : Image) (location : Location) : Result (List UInt8) :=
  image.readBytes location.offset.toNat location.size.toNat

/-- The module of a list entry, with the debug records and the name it refers to. -/
def moduleOfEntry (image : Image) (entry : ModuleEntry) : Result Module := do
  let range ← moduleRange .moduleRange entry.base entry.imageSize
  let cvRecord ← image.block entry.cvRecord
  let miscRecord ← image.block entry.miscRecord
  let path ← image.textAt entry.nameOffset.toNat
  pure {
    range
    checksum := entry.checksum
    timestamp := entry.timestamp
    path
    version := entry.version
    cvRecord
    miscRecord
  }

/-- The unloaded module whose entry is at an offset. -/
def unloadedModuleAt (image : Image) (offset : Nat) : Result UnloadedModule := do
  let entry ← image.read UnloadedModuleEntry.layout offset
  let range ← moduleRange .unloadedModuleRange entry.base entry.imageSize
  let name ← image.textAt entry.nameOffset.toNat
  pure { range, checksum := entry.checksum, timestamp := entry.timestamp, name }

/-- The handle whose descriptor is at an offset. -/
def handleAt (image : Image) (offset : Nat) : Result Handle := do
  let entry ← image.read HandleDescriptor.layout offset
  let typeName ← image.optionalTextAt entry.typeNameOffset
  let objectName ← image.optionalTextAt entry.objectNameOffset
  pure {
    handle := entry.handle
    typeName
    objectName
    attributes := entry.attributes
    grantedAccess := entry.grantedAccess
    handleCount := entry.handleCount
    pointerCount := entry.pointerCount
  }

/-- The clock rates. They are there if both the record and its stream are long enough for
the longer form of the record. -/
def processorPower (image : Image) (location : Location) (record : MiscRecord) :
    Result (Option ProcessorPower) := do
  let size := ExtendedMiscRecord.layout.size
  if size ≤ record.size.toNat ∧ size ≤ location.size.toNat
      ∧ record.has MiscInfo.processorPowerFlag then
    let extended ← image.read ExtendedMiscRecord.layout location.offset.toNat
    pure (some {
      maxMhz := extended.maxMhz
      currentMhz := extended.currentMhz
      mhzLimit := extended.mhzLimit
      maxIdleState := extended.maxIdleState
      currentIdleState := extended.currentIdleState
    })
  else
    pure none

end Image

namespace Scan

/-! ## One record after the other -/

/-- A computation without a state leaves the state alone. -/
theorem run_lift_bind_eq (result : Result α) (f : α → Scan β) (position : Nat) :
    ((liftM result : Scan α) >>= f).run.run position =
      match result with
      | .ok a => (f a).run.run position
      | .error cause => (.error cause, position) := by
  cases result <;> rfl

theorem run_lift_bind (result : Result α) (f : α → Scan β) (position : Nat) :
    (((liftM result : Scan α) >>= f).run.run position).1
      = result >>= fun a => ((f a).run.run position).1 := by
  rw [run_lift_bind_eq]
  cases result <;> rfl

/-- What follows a record that could be read starts behind it. -/
theorem run_recordAt_bind_of_read {image : Image} {layout : Layout α} {offset : Nat} {a : α}
    (h : image.read layout offset = .ok a) (f : α → Scan β) (position : Nat) :
    (recordAt image layout offset >>= f).run.run position
      = (f a).run.run (offset + layout.size) := by
  unfold Image.read at h
  rw [run_bind, run_recordAt, run_next]
  cases hwindow : image.window? offset layout.size with
  | none =>
    rw [hwindow] at h
    cases h
  | some bs =>
    rw [hwindow] at h
    cases h
    rfl

/-- What follows a read at an offset starts behind the record. -/
theorem run_recordAt_bind (image : Image) (layout : Layout α) (offset : Nat) (f : α → Scan β)
    (position : Nat) :
    ((recordAt image layout offset >>= f).run.run position).1
      = image.read layout offset >>= fun a => ((f a).run.run (offset + layout.size)).1 := by
  unfold Image.read
  rw [run_bind, run_recordAt, run_next]
  cases image.window? offset layout.size <;> rfl

/-- Going from record to record is going from offset to offset. -/
theorem run_nextManyOnto (image : Image) (layout : Layout α) (count : Nat)
    (reversed : List α) (position : Nat) :
    (nextManyOnto image layout reversed count).run.run position
      = (entriesOnto (recordAt image layout) layout.size reversed count position).run.run
          position := by
  induction count generalizing reversed position with
  | zero => rfl
  | succ count ih =>
    rw [nextManyOnto, entriesOnto, run_bind, run_bind, run_recordAt, run_next]
    cases image.window? position layout.size with
    | none => rfl
    | some bs => exact ih _ _

theorem runFrom_nextMany (image : Image) (layout : Layout α) (count position : Nat) :
    ((nextMany image layout count).run.run position).1 = image.records layout count position := by
  unfold nextMany
  rw [run_nextManyOnto]
  exact gives_entries (gives_recordAt image layout) layout.size count position position

theorem gives_countedList (image : Image) (entry : Layout α) (location : Location) :
    Gives (countedList image entry location) (image.countedList entry location) := by
  intro position
  unfold countedList Image.countedList
  simp only [run_recordAt_bind, run_lift_bind, runFrom_nextMany]

theorem gives_stridedList {entryAt : Nat → Scan α} {entry : Nat → Result α}
    (hentry : ∀ offset, Gives (entryAt offset) (entry offset)) (location : Location)
    (headerSize count entrySize : Nat) :
    Gives (do
        location.checkFits headerSize count entrySize
        entries entryAt entrySize count (location.offset.toNat + headerSize))
      (Image.stridedList entry location headerSize count entrySize) :=
  (gives_lift _).bind fun _ => gives_entries hentry entrySize count _

/-- A refusal that both a scan and a computation without a position make. -/
theorem gives_unless {condition : Prop} [Decidable condition] (cause : Error) {scan : Scan α}
    {result : Result α} (hscan : Gives scan result) :
    Gives (if condition then throw cause else scan)
      (if condition then .error cause else result) := by
  by_cases h : condition
  · rw [if_pos h, if_pos h]
    exact gives_throw cause
  · rw [if_neg h, if_neg h]
    exact hscan

/-! ## Texts and what refers to them -/

theorem gives_textAt (image : Image) (offset : Nat) :
    Gives (textAt image offset) (image.textAt offset) := by
  refine (gives_recordAt image .u32 offset).bind fun length => ?_
  refine (gives_bytesAt image _ _).bind fun bs => ?_
  exact gives_lift (Utf16.decode bs)

theorem gives_optionalTextAt (image : Image) (offset : UInt32) :
    Gives (optionalTextAt image offset) (image.optionalTextAt offset) := by
  unfold optionalTextAt Image.optionalTextAt
  by_cases hoffset : offset = 0
  · rw [if_pos hoffset, if_pos hoffset]
    exact gives_pure none
  · rw [if_neg hoffset, if_neg hoffset]
    exact (gives_textAt image offset.toNat).map some

theorem gives_moduleOfEntry (image : Image) (entry : ModuleEntry) :
    Gives (moduleOfEntry image entry) (image.moduleOfEntry entry) := by
  refine (gives_lift _).bind fun range => ?_
  refine (gives_block image entry.cvRecord).bind fun cvRecord => ?_
  refine (gives_block image entry.miscRecord).bind fun miscRecord => ?_
  refine (gives_textAt image entry.nameOffset.toNat).bind fun path => ?_
  exact gives_pure _

theorem gives_unloadedModuleAt (image : Image) (offset : Nat) :
    Gives (unloadedModuleAt image offset) (image.unloadedModuleAt offset) := by
  refine (gives_recordAt image _ offset).bind fun entry => ?_
  refine (gives_lift _).bind fun range => ?_
  refine (gives_textAt image entry.nameOffset.toNat).bind fun name => ?_
  exact gives_pure _

theorem gives_handleAt (image : Image) (offset : Nat) :
    Gives (handleAt image offset) (image.handleAt offset) := by
  refine (gives_recordAt image _ offset).bind fun entry => ?_
  refine (gives_optionalTextAt image entry.typeNameOffset).bind fun typeName => ?_
  refine (gives_optionalTextAt image entry.objectNameOffset).bind fun objectName => ?_
  exact gives_pure _

theorem gives_processorPower (image : Image) (location : Location) (record : MiscRecord) :
    Gives (processorPower image location record) (image.processorPower location record) := by
  unfold processorPower Image.processorPower
  by_cases hlong : ExtendedMiscRecord.layout.size ≤ record.size.toNat
      ∧ ExtendedMiscRecord.layout.size ≤ location.size.toNat
      ∧ record.has MiscInfo.processorPowerFlag
  · rw [if_pos hlong, if_pos hlong]
    exact (gives_recordAt image _ _).bind fun extended => gives_pure _
  · rw [if_neg hlong, if_neg hlong]
    exact gives_pure none

end Scan

namespace Image

/-! ## One equation for each decoder -/

variable (image : Image) (location : Location)

theorem threads_eq :
    image.threads location
      = List.map Thread.ofEntry <$> image.countedList ThreadEntry.layout location :=
  ((Scan.gives_countedList image ThreadEntry.layout location).map (List.map Thread.ofEntry)) 0

theorem threadsEx_eq :
    image.threadsEx location
      = List.map ThreadEx.ofEntry <$> image.countedList ThreadExEntry.layout location :=
  ((Scan.gives_countedList image ThreadExEntry.layout location).map (List.map ThreadEx.ofEntry)) 0

theorem threadInfo_eq :
    image.threadInfo location = (do
      let table ← image.read TableHeader.layout location.offset.toNat
      if table.entrySize.toNat < ThreadInfo.layout.size then
        throw (.smallEntries .threadInfo table.entrySize.toNat)
      if table.headerSize.toNat < TableHeader.layout.size then
        throw (.smallThreadInfoHeader table.headerSize.toNat)
      stridedList (image.read ThreadInfo.layout) location table.headerSize.toNat
        table.count.toNat table.entrySize.toNat) := by
  refine ((Scan.gives_recordAt image _ _).bind fun table => ?_) 0
  refine Scan.gives_unless _ (Scan.gives_unless _ ?_)
  exact Scan.gives_stridedList (Scan.gives_recordAt image _) location _ _ _

theorem modules_eq :
    image.modules location = (do
      let entries ← image.countedList ModuleEntry.layout location
      entries.mapM image.moduleOfEntry) :=
  ((Scan.gives_countedList image ModuleEntry.layout location).bind fun entries =>
    gives_mapM (Scan.gives_moduleOfEntry image) entries) 0

theorem unloadedModules_eq :
    image.unloadedModules location = (do
      let table ← image.read TableHeader.layout location.offset.toNat
      if table.entrySize.toNat < UnloadedModuleEntry.layout.size then
        throw (.smallEntries .unloadedModule table.entrySize.toNat)
      stridedList image.unloadedModuleAt location table.headerSize.toNat table.count.toNat
        table.entrySize.toNat) := by
  refine ((Scan.gives_recordAt image _ _).bind fun table => ?_) 0
  refine Scan.gives_unless _ ?_
  exact Scan.gives_stridedList (Scan.gives_unloadedModuleAt image) location _ _ _

theorem memoryList_eq :
    image.memoryList location
      = MemoryList.mk <$> image.countedList MemoryDescriptor.layout location :=
  ((Scan.gives_countedList image MemoryDescriptor.layout location).map MemoryList.mk) 0

theorem memory64List_eq :
    image.memory64List location = (do
      let header ← image.read Memory64Header.layout location.offset.toNat
      location.checkFits Memory64Header.layout.size header.count.toNat
        MemoryDescriptor64.layout.size
      let ranges ← image.records MemoryDescriptor64.layout header.count.toNat
        (location.offset.toNat + Memory64Header.layout.size)
      pure { baseOffset := header.baseOffset, ranges }) := by
  refine (Scan.run_recordAt_bind image _ _ _ 0).trans (congrArg _ (funext fun header => ?_))
  refine (Scan.run_lift_bind _ _ _).trans (congrArg _ (funext fun _ => ?_))
  rw [run_bind, ← Scan.runFrom_nextMany]
  rcases (Scan.nextMany image MemoryDescriptor64.layout header.count.toNat).run.run
    (location.offset.toNat + Memory64Header.layout.size) with ⟨_ | ranges, next⟩ <;> rfl

theorem memoryInfo_eq :
    image.memoryInfo location = (do
      let table ← image.read MemoryInfoHeader.layout location.offset.toNat
      if table.entrySize.toNat < MemoryInfo.layout.size then
        throw (.smallEntries .memoryInfo table.entrySize.toNat)
      stridedList (image.read MemoryInfo.layout) location table.headerSize.toNat
        table.count.toNat table.entrySize.toNat) := by
  refine ((Scan.gives_recordAt image _ _).bind fun table => ?_) 0
  refine Scan.gives_unless _ ?_
  exact Scan.gives_stridedList (Scan.gives_recordAt image _) location _ _ _

theorem systemInfo_eq :
    image.systemInfo location = (do
      let record ← image.read SystemRecord.layout location.offset.toNat
      let servicePack ← image.optionalTextAt record.servicePackOffset
      pure { record, servicePack := servicePack.getD "" }) := by
  refine ((Scan.gives_recordAt image _ _).bind fun record => ?_) 0
  exact (Scan.gives_optionalTextAt image record.servicePackOffset).bind fun _ => gives_pure _

theorem exceptionStream_eq :
    image.exceptionStream location
      = image.read ExceptionStream.layout location.offset.toNat :=
  (Scan.gives_recordAt image ExceptionStream.layout location.offset.toNat) 0

theorem miscInfo_eq :
    image.miscInfo location = (do
      let record ← image.read MiscRecord.layout location.offset.toNat
      let processorPower ← image.processorPower location record
      pure {
        processId := if record.has MiscInfo.processIdFlag then some record.processId else none
        processTimes :=
          if record.has MiscInfo.processTimesFlag then
            some {
              createTime := record.createTime
              userTime := record.userTime
              kernelTime := record.kernelTime
            }
          else none
        processorPower
      }) := by
  refine ((Scan.gives_recordAt image _ _).bind fun record => ?_) 0
  exact (Scan.gives_processorPower image location record).bind fun _ => gives_pure _

theorem handles_eq :
    image.handles location = (do
      let table ← image.read HandleTableHeader.layout location.offset.toNat
      if table.entrySize.toNat < HandleDescriptor.layout.size then
        throw (.smallEntries .handle table.entrySize.toNat)
      stridedList image.handleAt location table.headerSize.toNat table.count.toNat
        table.entrySize.toNat) := by
  refine ((Scan.gives_recordAt image _ _).bind fun table => ?_) 0
  refine Scan.gives_unless _ ?_
  exact Scan.gives_stridedList (Scan.gives_handleAt image) location _ _ _

theorem narrowComment_eq :
    image.narrowComment location = (do
      let bs ← image.block location
      pure (Utf8.decodeRepaired (bs.takeWhile (· ≠ 0)))) :=
  ((Scan.gives_block image location).bind fun _ => gives_pure _) 0

theorem wideComment_eq :
    image.wideComment location = (do
      let bs ← image.block location
      Utf16.textOfUnits ((Utf16.units bs).takeWhile (· ≠ 0))) :=
  ((Scan.gives_block image location).bind fun _ => gives_lift _) 0

end Image

end Minidump
