import Minidump.CommandLine.Report
import Minidump.Proofs.CursorBounds
import Minidump.Proofs.Diagnostics
import Minidump.Proofs.HexRows
import Minidump.Proofs.LastDecoded
import Minidump.Proofs.SequentialLists
import Minidump.Proofs.VirtualReads

/-!
# Addresses and offsets stay small

Once a dump is parsed, its addresses and offsets are added and subtracted without another look.
Each of these operations is safe because of something that was checked earlier and elsewhere:
regions end below 2⁶⁴ when they are made, sums of offsets and sizes stay below 2⁶⁴ when a list is
accepted, modules are refused if they end too high, and a read is cut off at the end of its
region. So 64-bit numbers compute what exact ones do, all over a dump.

- `AddressRange.IsBounded`, `Region.IsBounded` — a range, and the bytes of a region, end below
  2⁶⁴;
- `Region.InsertsInRange` — looking for the neighbours of a new region;
- `Region.Locates`, `AddressSpace.StaysInRange` — finding the place of an address;
- `HexDump.StaysInRange` — showing bytes at an address;
- `Dump.StaysInRange` — all this, and what the cursors of a dump compute, in one place;
- `Dump.addresses_never_wrap` — no dump that is parsed gets out of range.
-/

namespace Minidump

/-- A range goes forward and ends below 2⁶⁴, so its length is the exact difference. -/
structure AddressRange.IsBounded (range : AddressRange) : Prop where
  start_le : range.start ≤ range.stop
  stop_lt : range.stop < addressLimit

/-- A region is bounded, and so are the offsets of its bytes. -/
structure Region.IsBounded (region : Region) : Prop where
  range : region.range.IsBounded
  offset_lt : region.offset + region.range.length < addressLimit

/-! ## Adding a region -/

/-- A region is made of an entry of one of the memory lists. No others are ever inserted. -/
def Region.FromDescriptor (region : Region) : Prop :=
  (∃ d, Region.ofDescriptor d = .ok region) ∨
    ∃ offset d, Region.ofDescriptor64 offset d = .ok region

/-- The neighbour that follows a new region is looked for from the address after its start on,
and this address is below 2⁶⁴. -/
structure Region.InsertsInRange (region : Region) : Prop where
  start_add_one_lt : region.range.start + 1 < addressLimit
  after_eq : ∀ space : AddressSpace, Region.Ordered space.regions →
    space.after region.range.start
      = space.regions.filter fun r => region.range.start + 1 ≤ r.range.start

/-- A region is made only if its end is below 2⁶⁴. -/
theorem Region.stop_lt_of_ofSize {start size offset : Nat} {region : Region}
    (h : Region.ofSize start size offset = .ok region) : region.range.stop < addressLimit := by
  rw [Region.ofSize_eq] at h
  by_cases hlt : start + size < addressLimit
  · rw [if_pos hlt] at h
    obtain rfl := Except.ok.inj h
    exact hlt
  · rw [if_neg hlt] at h
    cases h

/-- The regions after an address are those that start at the next one or later. -/
theorem AddressSpace.after_eq_filter {space : AddressSpace}
    (hspace : Region.Ordered space.regions) (address : Nat) :
    space.after address = space.regions.filter fun r => address + 1 ≤ r.range.start := by
  have hupTo : (space.upTo address).filter (fun r => address + 1 ≤ r.range.start) = [] := by
    rw [List.filter_eq_nil_iff]
    intro r hr hlt
    have hle := start_le_of_mem_upTo hr
    have := of_decide_eq_true hlt
    omega
  have hafter : (space.after address).filter (fun r => address + 1 ≤ r.range.start)
      = space.after address :=
    List.filter_eq_self.mpr fun r hr => decide_eq_true (lt_start_of_mem_after hspace hr)
  rw [← upTo_append_after space address, List.filter_append, hupTo, hafter, List.nil_append]

theorem Region.insertsInRange {region : Region} (hmade : region.FromDescriptor)
    (hoccupied : ¬ region.range.IsEmpty) : region.InsertsInRange := by
  have hstop : region.range.stop < addressLimit := by
    rcases hmade with ⟨d, hd⟩ | ⟨offset, d, hd⟩
    · exact Region.stop_lt_of_ofSize hd
    · exact Region.stop_lt_of_ofSize hd
  unfold AddressRange.IsEmpty at hoccupied
  exact ⟨by omega, fun space hspace => AddressSpace.after_eq_filter hspace _⟩

/-! ## Finding the place of an address -/

/-- The place of an address in a region: the address is not before the start of the region and
is before its end, adding and subtracting 64-bit numbers computes the offset of its byte, and the
offsets of all bytes up to the end of the region are below 2⁶⁴. -/
structure Region.Locates (region : Region) (address : Nat) (place : FilePlace) : Prop where
  contains : region.range.Contains address
  offset_eq : place.offset = region.offset + (address - region.range.start)
  available_eq : place.available = region.range.stop - address
  toNat_offset : (UInt64.ofNat region.offset
    + (UInt64.ofNat address - UInt64.ofNat region.range.start)).toNat = place.offset
  end_lt : place.offset + place.available < addressLimit

/-- The regions of an address space are bounded, and each place of an address is computed from
one of them. -/
structure AddressSpace.StaysInRange (space : AddressSpace) : Prop where
  region : ∀ r ∈ space.regions, r.IsBounded
  locate? : ∀ address place, space.locate? address = some place →
    ∃ r ∈ space.regions, r.Locates address place

namespace AddressSpace.BuiltFrom

variable {space : AddressSpace} {described : List Region}

theorem locates (h : space.BuiltFrom described) {address : Nat} {place : FilePlace}
    (hplace : space.locate? address = some place) :
    ∃ r ∈ space.regions, r.Locates address place := by
  obtain ⟨r, hr, hcontains, rfl, -, hend⟩ := h.exists_of_locate? hplace
  have hmem := ((AddressSpace.region?_eq_some_iff h.ordered).mp hr).1
  have hoffset : (r.placeOf address).offset < addressLimit :=
    Nat.lt_of_le_of_lt (Nat.le_add_right _ _) hend
  refine ⟨r, hmem, hcontains, rfl, rfl, ?_, hend⟩
  calc (UInt64.ofNat r.offset + (UInt64.ofNat address - UInt64.ofNat r.range.start)).toNat
      = (UInt64.ofNat (r.placeOf address).offset).toNat := by
        rw [← UInt64.ofNat_sub hcontains.1, ← UInt64.ofNat_add]
        rfl
    _ = (r.placeOf address).offset := UInt64.toNat_ofNat_of_lt' hoffset

theorem staysInRange (h : space.BuiltFrom described) : space.StaysInRange where
  region := by
    intro r hr
    obtain ⟨hmem, hoccupied⟩ := (h.mem_iff r).mp hr
    exact ⟨⟨Nat.le_of_not_le hoccupied, h.stop_lt r hmem⟩, h.offset_lt r hmem⟩
  locate? := fun _ _ hplace => h.locates hplace

end AddressSpace.BuiltFrom

/-! ## Showing bytes -/

/-- The address behind the bytes that are shown, and the address of each row, are below 2⁶⁴. -/
structure HexDump.StaysInRange (address : Nat) (data : List UInt8) : Prop where
  end_lt : address + data.length < addressLimit
  rows_eq : HexDump.rows address data = (List.range (rowCount data)).map fun index =>
    rowText (address + rowLength * index) (rowBytes data index)
  row_lt : ∀ index < rowCount data, address + rowLength * index < addressLimit

theorem HexDump.staysInRange {address : Nat} {data : List UInt8}
    (h : address + data.length < addressLimit) : HexDump.StaysInRange address data where
  end_lt := h
  rows_eq := HexDump.rows_eq address data
  row_lt := by
    intro index hindex
    have := mul_lt_length hindex
    omega

/-! ## Dumps -/

namespace ProcessMemory

variable {memory : ProcessMemory} {described : List Region}

/-- What is read ends no later than its region. -/
theorem add_length_lt_of_bytesUpTo (hbuilt : memory.space.BuiltFrom described)
    {address length : Nat} {data : List UInt8} (h : memory.bytesUpTo address length = .ok data) :
    address + data.length < addressLimit := by
  cases hregion : memory.space.region? address with
  | none =>
    rw [bytesUpTo_of_unmapped hregion] at h
    cases h
  | some region =>
    rw [bytesUpTo_of_region? hregion] at h
    obtain ⟨hmem, -, haddress⟩ := hbuilt.region?_eq_some_iff.mp hregion
    have hstop := hbuilt.stop_lt region hmem
    have hlength : data.length ≤ region.range.stop - address :=
      Image.length_of_readBytes h ▸ Nat.min_le_right _ _
    omega

/-- The walk of a parse fails for no number that is computed from where its cursor is. -/
theorem processAt_ne_overflow (hbuilt : memory.space.BuiltFrom described) {quantity : Quantity}
    (hquantity : quantity.IsOfCursor) (teb : Nat) :
    memory.processAt teb ≠ .error (.overflow quantity) := by
  have hwalk := gives_walk hbuilt teb (VirtualCursor.fresh 0)
  rw [← hwalk]
  exact (safe_walk hbuilt teb _ (inPlace_fresh memory 0)).ne_overflow quantity hquantity

end ProcessMemory

namespace Dump

open Text

/-- All that is computed from the addresses and offsets of a dump stays in range: where regions
and modules lie, the places of addresses, what a cursor computes after any calls, what the parse
and the reads have computed with cursors, and what is shown of the bytes that are read. -/
structure StaysInRange (dump : Dump) (image : Image) : Prop where
  space : ∀ space, dump.addressSpace = some space → space.StaysInRange
  modules : ∀ m ∈ dump.modules, m.range.IsBounded
  cursor : ∀ memory, dump.memory? image = some memory → ∀ filePosition calls,
    memory.StaysInRange ((VirtualCursor.fresh filePosition).afterAll memory calls)
  environment : ∀ quantity : Quantity, quantity.IsOfCursor →
    .processEnvironment (.overflow quantity) ∉ dump.diagnostics
  read_ne_overflow : ∀ address length position, ∀ quantity : Quantity, quantity.IsOfCursor →
    (dump.scanVirtual image address length).runFrom position ≠ .error (.overflow quantity)
  shown : ∀ address length position data,
    (dump.scanVirtual image address length).runFrom position = .ok data →
      HexDump.StaysInRange address data
  memoryDump : ∀ address length data, dump.readVirtual image address length = .ok data →
    (CommandLine.memoryDump dump image address length).output =
      line "Memory:"
        ++ line (hexPadded 16 address ++ " -> " ++ hexPadded 16 (address + data.length))
        ++ String.join (HexDump.rows address data)

variable {dump : Dump} {image : Image}

theorem isBounded_of_mem_modules (hdump : image.dump = .ok dump) {m : Module}
    (hm : m ∈ dump.modules) : m.range.IsBounded := by
  obtain ⟨header, entries, -, -, rfl⟩ := Image.exists_of_dump hdump
  rw [(holdsLastDecoded_dumpOf image header entries).modules] at hm
  cases hlast : lastDecoded 4 image.modules entries with
  | none =>
    rw [hlast] at hm
    cases hm
  | some modules =>
    rw [hlast] at hm
    obtain ⟨entry, -, -, hmodules⟩ := exists_of_lastDecoded hlast
    obtain ⟨-, entries, -, hmade⟩ := Image.modules_eq_ok_iff.mp hmodules
    obtain ⟨index, hindex⟩ := List.mem_iff_getElem?.mp hm
    obtain ⟨described, -, hdescribes⟩ := (getElem?_of_mapM hmade).2 index m hindex
    have hdescribes := Image.moduleOfEntry_eq_ok_iff.mp hdescribes
    rw [hdescribes.range_eq]
    exact ⟨Nat.le_add_right _ _, hdescribes.stop_lt⟩

theorem processEnvironment_not_mem (hdump : image.dump = .ok dump) {quantity : Quantity}
    (hquantity : quantity.IsOfCursor) :
    .processEnvironment (.overflow quantity) ∉ dump.diagnostics := by
  obtain ⟨header, entries, -, -, rfl⟩ := Image.exists_of_dump hdump
  rw [image.mem_processEnvironment_dumpOf]
  unfold Image.environment?
  match hspace : attempted? (image.contents entries).space?, (image.contents entries).threads with
  | none, _ => exact nofun
  | some space, [] => exact nofun
  | some space, thread :: _ =>
    obtain ⟨described, hbuilt⟩ :=
      AddressSpace.exists_builtFrom_of_ofLists (Contents.ofLists_of_space? hspace)
    have hne : ProcessMemory.processAt { space, image } thread.teb.toNat
        ≠ .error (.overflow quantity) := ProcessMemory.processAt_ne_overflow hbuilt hquantity _
    show failure? (some (ProcessMemory.processAt { space, image } thread.teb.toNat))
      ≠ some (.overflow quantity)
    cases hfound : ProcessMemory.processAt { space, image } thread.teb.toNat with
    | ok found => exact nofun
    | error cause =>
      intro hcause
      exact hne (hfound.trans (congrArg Except.error (Option.some.inj hcause)))

theorem mappedBytes_ne_overflow (address length : Nat) (quantity : Quantity) :
    dump.mappedBytes image address length ≠ .error (.overflow quantity) := by
  cases hspace : dump.addressSpace with
  | none =>
    rw [mappedBytes_of_none hspace]
    exact nofun
  | some space =>
    rw [mappedBytes_of_some hspace]
    unfold ProcessMemory.bytesUpTo
    cases space.locate? address with
    | none => exact nofun
    | some place => exact Image.readBytes_ne_overflow _ _ _

theorem add_length_lt_of_mappedBytes (hdump : image.dump = .ok dump) {address length : Nat}
    {data : List UInt8} (h : dump.mappedBytes image address length = .ok data) :
    address + data.length < addressLimit := by
  cases hspace : dump.addressSpace with
  | none =>
    rw [mappedBytes_of_none hspace] at h
    cases h
  | some space =>
    obtain ⟨described, hbuilt⟩ := exists_builtFrom_of_dump hdump hspace
    rw [mappedBytes_of_some hspace] at h
    exact ProcessMemory.add_length_lt_of_bytesUpTo hbuilt h

theorem staysInRange_of_dump (hdump : image.dump = .ok dump) : dump.StaysInRange image where
  space := by
    intro space hspace
    obtain ⟨described, hbuilt⟩ := exists_builtFrom_of_dump hdump hspace
    exact hbuilt.staysInRange
  modules := fun _ hm => isBounded_of_mem_modules hdump hm
  cursor := by
    intro memory hmemory filePosition calls
    obtain ⟨space, hspace, rfl⟩ := Option.map_eq_some_iff.mp hmemory
    obtain ⟨described, hbuilt⟩ := exists_builtFrom_of_dump hdump hspace
    exact ProcessMemory.staysInRange_afterAll hbuilt filePosition calls
  environment := fun _ hquantity => processEnvironment_not_mem hdump hquantity
  read_ne_overflow := by
    intro address length position quantity _
    rw [Scan.runFrom_eq_of_gives (scanVirtual_gives hdump address length)]
    exact mappedBytes_ne_overflow address length quantity
  shown := by
    intro address length position data hdata
    rw [Scan.runFrom_eq_of_gives (scanVirtual_gives hdump address length)] at hdata
    exact HexDump.staysInRange (add_length_lt_of_mappedBytes hdump hdata)
  memoryDump := by
    intro address length data hdata
    unfold CommandLine.memoryDump
    rw [hdata]
    rfl

/-- **Addresses never wrap, and the guards find nothing.** Every region that is inserted while a
memory list is read starts below the last address. Of every dump that is parsed, from every
position in the file on, the regions and the modules end below 2⁶⁴; so does the place of every
address, up to the end of its region, and adding and subtracting 64-bit numbers computes it; no
cursor is behind the end of its region after any calls, and neither of the two guarded numbers
makes a call, the parse or a read fail; and all addresses that are shown of bytes in memory are
below 2⁶⁴. -/
theorem addresses_never_wrap :
    (∀ region : Region, region.FromDescriptor → ¬ region.range.IsEmpty →
      region.InsertsInRange) ∧
    ∀ (image : Image) (position : Nat) (dump : Dump),
      (Scan.dump image).runFrom position = .ok dump → dump.StaysInRange image :=
  ⟨fun _ hmade hoccupied => Region.insertsInRange hmade hoccupied,
    fun image position _ h => staysInRange_of_dump ((Scan.gives_dump image position).symm.trans h)⟩

/-- Of two regions the first one reaches up to the last address, and the second one starts at the
first address and reaches up to the last offset, far behind the end of the file. -/
theorem addresses_never_wrap_at_limit :
    let bs : List UInt8 :=
      [0x4d, 0x44, 0x4d, 0x50, 0, 0, 0, 0, 1, 0, 0, 0, 32, 0, 0, 0] ++ List.replicate 16 0
        ++ [9, 0, 0, 0, 48, 0, 0, 0, 44, 0, 0, 0]
        ++ [2, 0, 0, 0, 0, 0, 0, 0, 92, 0, 0, 0, 0, 0, 0, 0]
        ++ [0xed, 0xff, 0xff, 0xff, 0xff, 0xff, 0xff, 0xff, 18, 0, 0, 0, 0, 0, 0, 0]
        ++ [0, 0, 0, 0, 0, 0, 0, 0, 0x91, 0xff, 0xff, 0xff, 0xff, 0xff, 0xff, 0xff]
        ++ List.replicate 18 0x41;
    let image : Image := ⟨⟨bs.toArray⟩⟩;
    let space : AddressSpace := { bitness := .bits64, regions :=
      [⟨⟨0, 0xffffffffffffff91⟩, 110⟩, ⟨⟨0xffffffffffffffed, 0xffffffffffffffff⟩, 92⟩] };
    let last : Region := ⟨⟨0xfffffffffffffffe, 0xffffffffffffffff⟩, 7⟩;
    last.InsertsInRange ∧ ∃ dump, (Scan.dump image).runFrom 3 = .ok dump ∧
      dump.addressSpace = some space ∧ dump.StaysInRange image ∧
      space.locate? 0xffffffffffffff90 = some { offset := 0xfffffffffffffffe, available := 1 } ∧
      (dump.scanVirtual image 0xffffffffffffffed 100).runFrom 5 = .ok (List.replicate 18 0x41) ∧
      HexDump.StaysInRange 0xffffffffffffffed (List.replicate 18 0x41) := by
  intro bs image space last
  have hlast : last.FromDescriptor := .inl ⟨⟨0xfffffffffffffffe, ⟨1, 7⟩⟩, rfl⟩
  refine ⟨addresses_never_wrap.1 last hlast (by decide), ?_⟩
  have hspace : Dump.addressSpace <$> (Scan.dump image).runFrom 3 = .ok (some space) := by
    decide +kernel
  cases hdump : (Scan.dump image).runFrom 3 with
  | error cause =>
    rw [hdump] at hspace
    cases hspace
  | ok dump =>
    rw [hdump] at hspace
    have hspace : dump.addressSpace = some space := Except.ok.inj hspace
    have hrange := addresses_never_wrap.2 image 3 dump hdump
    have hread : (dump.scanVirtual image 0xffffffffffffffed 100).runFrom 5
        = .ok (List.replicate 18 0x41) := by
      rw [Scan.runFrom_eq_of_gives
        (scanVirtual_gives ((Scan.gives_dump image 3).symm.trans hdump) _ _),
        mappedBytes_of_some hspace]
      decide +kernel
    exact ⟨dump, rfl, hspace, hrange, by decide, hread, hrange.shown _ _ _ _ hread⟩

end Dump

end Minidump
