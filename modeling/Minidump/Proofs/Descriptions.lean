import Minidump.Proofs.Gives
import Minidump.Proofs.Regions
import Mathlib.Algebra.GroupWithZero.Nat

/-!
# What the memory lists describe

A memory list is a list of descriptors in no particular order, and so is a 64-bit one,
whose bytes lie back to back: where those of a descriptor are depends on all the
descriptors before it, the empty ones included. This file reads both lists as plain lists
of regions, in list order and without any map, and says what is known of an address space
that was built from them.

- `MemoryList.described`, `Memory64List.described` — the regions, one for each
  descriptor;
- `AddressSpace.BuiltFrom` — the address space holds exactly the described regions that
  have addresses, no two descriptions share an address, and no end is beyond 64 bits;
- `AddressSpace.place` — what happens to one described region; both lists are runs of it, see
  `AddressSpace.insertList_eq_foldlM` and `AddressSpace.insertList64_eq_foldlM`;
- `AddressSpace.ofMemoryList_builtFrom`, `AddressSpace.ofMemory64List_builtFrom`,
  `AddressSpace.exists_builtFrom_of_ofLists` — every list that is accepted was built this
  way.
-/

namespace Minidump

/-- Two regions share no address. -/
def Region.Apart (r s : Region) : Prop :=
  ∀ address, ¬ (r.range.Contains address ∧ s.range.Contains address)

/-- The region of a descriptor. -/
def MemoryDescriptor.region (d : MemoryDescriptor) : Region where
  range := { start := d.start.toNat, stop := d.start.toNat + d.location.size.toNat }
  offset := d.location.offset.toNat

/-- The regions of a memory list, one for each descriptor. -/
def MemoryList.described (list : MemoryList) : List Region :=
  list.ranges.map MemoryDescriptor.region

/-- The region of a descriptor of a 64-bit list whose bytes are at an offset. -/
def MemoryDescriptor64.regionAt (offset : Nat) (d : MemoryDescriptor64) : Region where
  range := { start := d.start.toNat, stop := d.start.toNat + d.size.toNat }
  offset

/-- Where the bytes of a descriptor are: behind those of all earlier ones. -/
def Memory64List.offsetOf (list : Memory64List) (index : Nat) : Nat :=
  list.baseOffset.toNat + ((list.ranges.take index).map fun d => d.size.toNat).sum

/-- The regions of a 64-bit memory list, one for each descriptor. -/
def Memory64List.described (list : Memory64List) : List Region :=
  list.ranges.mapIdx fun index d => d.regionAt (list.offsetOf index)

namespace AddressSpace

/-- What is known of an address space that was built from described regions. -/
structure BuiltFrom (space : AddressSpace) (described : List Region) : Prop where
  ordered : Region.Ordered space.regions
  mem_iff : ∀ r, r ∈ space.regions ↔ r ∈ described ∧ ¬ r.range.IsEmpty
  apart : described.Pairwise Region.Apart
  stop_lt : ∀ r ∈ described, r.range.stop < addressLimit
  offset_lt : ∀ r ∈ described, r.offset + r.range.length < addressLimit

/-! ## Adding regions one after the other -/

variable {space space' : AddressSpace}

/-- A region that is accepted shares no address with one that is there. -/
theorem apart_of_insert (hspace : Region.Ordered space.regions) {region : Region}
    (h : space.insert region = .ok space') : ∀ r ∈ space.regions, r.Apart region := by
  rintro r hr address ⟨hraddress, haddress⟩
  have hmeets := not_meets_of_insert hspace h haddress.not_isEmpty r hr
  refine hmeets ((AddressRange.meets_iff_exists_contains ?_ ?_).mpr ⟨address, hraddress, haddress⟩)
  · exact hspace.occupied r hr
  · exact haddress.not_isEmpty

/-- A run of insertions: the regions that come out are those from before and the new ones
that are not empty, and none of the new ones shares an address with any other one. -/
theorem foldlM_insert (regions : List Region) (hspace : Region.Ordered space.regions)
    (h : regions.foldlM insert space = .ok space') :
    Region.Ordered space'.regions
      ∧ (∀ r, r ∈ space'.regions ↔ r ∈ space.regions ∨ (r ∈ regions ∧ ¬ r.range.IsEmpty))
      ∧ regions.Pairwise Region.Apart
      ∧ ∀ r ∈ space.regions, ∀ s ∈ regions, r.Apart s := by
  induction regions generalizing space with
  | nil =>
    cases h
    refine ⟨hspace, fun r => ?_, List.Pairwise.nil, fun _ _ _ hs => nomatch hs⟩
    simp
  | cons region regions ih =>
    rw [List.foldlM_cons] at h
    cases hinsert : space.insert region with
    | error cause =>
      rw [hinsert] at h
      cases h
    | ok middle =>
      rw [hinsert] at h
      have hmem := mem_insert hspace hinsert
      obtain ⟨hordered, hmem', hpairwise, hacross⟩ := ih (insert_ordered hspace hinsert) h
      have hfirst := apart_of_insert hspace hinsert
      refine ⟨hordered, fun r => ?_, List.pairwise_cons.mpr ⟨?_, hpairwise⟩, ?_⟩
      · rw [hmem', hmem, List.mem_cons]
        tauto
      · -- an empty region shares no address with anything
        intro s hs address ⟨haddress, hsaddress⟩
        have hregion : region ∈ middle.regions :=
          (hmem region).mpr (.inr ⟨rfl, haddress.not_isEmpty⟩)
        exact hacross region hregion s hs address ⟨haddress, hsaddress⟩
      · intro r hr s hs
        rcases List.mem_cons.mp hs with rfl | hs
        · exact hfirst r hr
        · exact hacross r ((hmem r).mpr (.inl hr)) s hs

/-- Regions that are added to none make up an address space that is built from them. -/
theorem builtFrom_of_foldlM {bitness : Bitness} {regions : List Region}
    (h : regions.foldlM insert { bitness, regions := [] } = .ok space)
    (hstop : ∀ r ∈ regions, r.range.stop < addressLimit)
    (hoffset : ∀ r ∈ regions, r.offset + r.range.length < addressLimit) :
    BuiltFrom space regions := by
  obtain ⟨hordered, hmem, hpairwise, -⟩ := foldlM_insert regions Region.Ordered.nil h
  refine ⟨hordered, fun r => ?_, hpairwise, hstop, hoffset⟩
  rw [hmem]
  simp

end AddressSpace

/-! ## From the lists to their regions -/

/-- A region is made iff its end stays below 2⁶⁴. -/
theorem Region.ofSize_eq (start size offset : Nat) :
    Region.ofSize start size offset =
      if start + size < addressLimit then
        .ok { range := { start, stop := start + size }, offset }
      else .error (.regionOverflow start size) := by
  unfold Region.ofSize AddressRange.ofSize? checkedAdd?
  by_cases h : start + size < addressLimit
  · rw [if_pos h, if_pos h]
    rfl
  · rw [if_neg h, if_neg h]
    rfl

/-- The regions of 64-bit descriptors whose bytes lie back to back from an offset on. -/
def MemoryDescriptor64.regionsFrom (offset : Nat) : List MemoryDescriptor64 → List Region
  | [] => []
  | d :: ranges => d.regionAt offset :: regionsFrom (offset + d.size.toNat) ranges

/-- Going through the list with a running offset gives each region the sum of the sizes
before it. -/
theorem Memory64List.described_eq_regionsFrom (list : Memory64List) :
    list.described = MemoryDescriptor64.regionsFrom list.baseOffset.toNat list.ranges := by
  -- for every offset to start from, as it is another one for the rest of the list
  have hfrom : ∀ (ranges : List MemoryDescriptor64) (offset : Nat),
      (ranges.mapIdx fun index d =>
          d.regionAt (offset + ((ranges.take index).map fun d => d.size.toNat).sum))
        = MemoryDescriptor64.regionsFrom offset ranges := by
    intro ranges
    induction ranges with
    | nil => exact fun _ => rfl
    | cons d ranges ih =>
      intro offset
      rw [List.mapIdx_cons, MemoryDescriptor64.regionsFrom, ← ih]
      simp [Nat.add_assoc]
  exact hfrom list.ranges list.baseOffset.toNat

namespace AddressSpace

/-- Adds a described region: its last address, the regions that are there and its last byte,
one after the other, have to allow it. -/
def place (space : AddressSpace) (region : Region) : Result AddressSpace :=
  if addressLimit ≤ region.range.stop then
    .error (.regionOverflow region.range.start region.range.length)
  else do
    let space ← space.insert region
    if addressLimit ≤ region.offset + region.range.length then .error (.overflow .memory64Offset)
    else .ok space

theorem place_eq_ok_iff {space space' : AddressSpace} {region : Region} :
    space.place region = .ok space' ↔
      region.range.stop < addressLimit ∧ region.offset + region.range.length < addressLimit ∧
        space.insert region = .ok space' := by
  unfold place
  rw [refused_eq_ok_iff, bind_eq_ok_iff, Nat.not_le]
  simp only [refused_eq_ok_iff, Nat.not_le]
  constructor
  · rintro ⟨hstop, _, hinsert, hoffset, hsame⟩
    cases hsame
    exact ⟨hstop, hoffset, hinsert⟩
  · rintro ⟨hstop, hoffset, hinsert⟩
    exact ⟨hstop, space', hinsert, hoffset, rfl⟩

/-- Described regions are added one and all iff the numbers of each of them allow it and no
insertion is refused. -/
theorem foldlM_place_eq_ok_iff {space space' : AddressSpace} (regions : List Region) :
    regions.foldlM place space = .ok space' ↔
      (∀ r ∈ regions, r.range.stop < addressLimit) ∧
      (∀ r ∈ regions, r.offset + r.range.length < addressLimit) ∧
      regions.foldlM insert space = .ok space' := by
  induction regions generalizing space with
  | nil =>
    simp only [List.not_mem_nil, false_implies, implies_true, true_and]
    exact Iff.rfl
  | cons region regions ih =>
    simp only [List.foldlM_cons, bind_eq_ok_iff, place_eq_ok_iff, ih, List.forall_mem_cons]
    constructor
    · rintro ⟨middle, ⟨hstop, hoffset, hinsert⟩, hstops, hoffsets, hrest⟩
      exact ⟨⟨hstop, hstops⟩, ⟨hoffset, hoffsets⟩, middle, hinsert, hrest⟩
    · rintro ⟨⟨hstop, hstops⟩, ⟨hoffset, hoffsets⟩, middle, hinsert, hrest⟩
      exact ⟨middle, ⟨hstop, hoffset, hinsert⟩, hstops, hoffsets, hrest⟩

/-- The bytes of a descriptor with 32-bit numbers end below 2⁶⁴. -/
theorem offset_lt_of_descriptor (d : MemoryDescriptor) :
    d.region.offset + d.region.range.length < addressLimit := by
  have hlength : d.region.range.length = d.location.size.toNat := Nat.add_sub_cancel_left ..
  have hoffset : d.region.offset = d.location.offset.toNat := rfl
  have := d.location.size.toNat_lt
  have := d.location.offset.toNat_lt
  have : addressLimit = 2 ^ 64 := rfl
  omega

/-- A memory list is added region by region. -/
theorem insertList_eq_foldlM {space : AddressSpace} (ranges : List MemoryDescriptor) :
    space.insertList ranges = (ranges.map MemoryDescriptor.region).foldlM place space := by
  induction ranges generalizing space with
  | nil => rfl
  | cons d ranges ih =>
    have hregion : Region.ofDescriptor d =
        if d.region.range.stop < addressLimit then .ok d.region
        else .error (.regionOverflow d.start.toNat d.location.size.toNat) :=
      Region.ofSize_eq ..
    have hlength : d.region.range.length = d.location.size.toNat := Nat.add_sub_cancel_left ..
    rw [insertList, hregion, List.map_cons, List.foldlM_cons, place]
    by_cases hstop : d.region.range.stop < addressLimit
    · rw [if_pos hstop, if_neg (Nat.not_le.mpr hstop)]
      show (space.insert d.region >>= fun space => space.insertList ranges) = _
      cases space.insert d.region with
      | error cause => rfl
      | ok middle =>
        show middle.insertList ranges =
          ((if addressLimit ≤ d.region.offset + d.region.range.length then _
            else Except.ok middle) >>= _)
        rw [if_neg (Nat.not_le.mpr (offset_lt_of_descriptor d))]
        exact ih
    · rw [if_neg hstop, if_pos (Nat.not_lt.mp hstop), hlength]
      rfl

/-- So is a 64-bit list, the running offset being that of each region. -/
theorem insertList64_eq_foldlM {space : AddressSpace} (offset : Nat)
    (ranges : List MemoryDescriptor64) :
    space.insertList64 offset ranges =
      (MemoryDescriptor64.regionsFrom offset ranges).foldlM place space := by
  induction ranges generalizing space offset with
  | nil => rfl
  | cons d ranges ih =>
    have hregion : Region.ofDescriptor64 offset d =
        if (d.regionAt offset).range.stop < addressLimit then .ok (d.regionAt offset)
        else .error (.regionOverflow d.start.toNat d.size.toNat) :=
      Region.ofSize_eq ..
    have hlength : (d.regionAt offset).range.length = d.size.toNat :=
      Nat.add_sub_cancel_left ..
    rw [insertList64, hregion, MemoryDescriptor64.regionsFrom, List.foldlM_cons, place, hlength]
    by_cases hstop : (d.regionAt offset).range.stop < addressLimit
    · rw [if_pos hstop, if_neg (Nat.not_le.mpr hstop)]
      show (space.insert (d.regionAt offset) >>= fun space => _) = _
      cases space.insert (d.regionAt offset) with
      | error cause => rfl
      | ok middle =>
        by_cases hoffset : offset + d.size.toNat < addressLimit
        · rw [show checkedAdd? offset d.size.toNat = some (offset + d.size.toNat) from
            if_pos hoffset]
          show middle.insertList64 (offset + d.size.toNat) ranges =
            ((if addressLimit ≤ offset + d.size.toNat then _ else Except.ok middle) >>= _)
          rw [if_neg (Nat.not_le.mpr hoffset)]
          exact ih (offset + d.size.toNat)
        · rw [show checkedAdd? offset d.size.toNat = none from if_neg hoffset]
          show _ = ((if addressLimit ≤ offset + d.size.toNat then _ else Except.ok middle) >>= _)
          rw [if_pos (Nat.not_lt.mp hoffset)]
          rfl
    · rw [if_neg hstop, if_pos (Nat.not_lt.mp hstop)]
      rfl

theorem insertList_eq_ok_iff {space space' : AddressSpace} (ranges : List MemoryDescriptor) :
    space.insertList ranges = .ok space' ↔
      (∀ r ∈ ranges.map MemoryDescriptor.region, r.range.stop < addressLimit) ∧
      (ranges.map MemoryDescriptor.region).foldlM insert space = .ok space' := by
  have hoffset : ∀ r ∈ ranges.map MemoryDescriptor.region,
      r.offset + r.range.length < addressLimit := by
    intro r hr
    obtain ⟨d, -, rfl⟩ := List.mem_map.mp hr
    exact offset_lt_of_descriptor d
  rw [insertList_eq_foldlM, foldlM_place_eq_ok_iff]
  exact ⟨fun h => ⟨h.1, h.2.2⟩, fun h => ⟨h.1, hoffset, h.2⟩⟩

theorem insertList64_eq_ok_iff {space space' : AddressSpace} (offset : Nat)
    (ranges : List MemoryDescriptor64) :
    space.insertList64 offset ranges = .ok space' ↔
      (∀ r ∈ MemoryDescriptor64.regionsFrom offset ranges, r.range.stop < addressLimit) ∧
      (∀ r ∈ MemoryDescriptor64.regionsFrom offset ranges,
        r.offset + r.range.length < addressLimit) ∧
      (MemoryDescriptor64.regionsFrom offset ranges).foldlM insert space = .ok space' := by
  rw [insertList64_eq_foldlM, foldlM_place_eq_ok_iff]

/-! ## What an accepted list was built from -/

theorem builtFrom_of_foldlM_place {bitness : Bitness} {regions : List Region}
    {space : AddressSpace}
    (h : regions.foldlM place { bitness, regions := [] } = .ok space) :
    BuiltFrom space regions := by
  obtain ⟨hstop, hoffset, hfold⟩ := (foldlM_place_eq_ok_iff regions).mp h
  exact builtFrom_of_foldlM hfold hstop hoffset

theorem ofMemoryList_builtFrom {list : MemoryList} {space : AddressSpace}
    (h : ofMemoryList list = .ok space) : BuiltFrom space list.described := by
  unfold ofMemoryList at h
  rw [insertList_eq_foldlM] at h
  exact builtFrom_of_foldlM_place h

theorem ofMemory64List_builtFrom {list : Memory64List} {space : AddressSpace}
    (h : ofMemory64List list = .ok space) : BuiltFrom space list.described := by
  unfold ofMemory64List at h
  rw [insertList64_eq_foldlM, ← Memory64List.described_eq_regionsFrom] at h
  exact builtFrom_of_foldlM_place h

/-- Every address space of a dump was built from what one of the lists describes. -/
theorem exists_builtFrom_of_ofLists {memory : Option MemoryList} {memory64 : Option Memory64List}
    {space : AddressSpace} (h : ofLists memory memory64 = .ok space) :
    ∃ described, BuiltFrom space described := by
  match memory64, memory, h with
  | some list, _, h => exact ⟨_, ofMemory64List_builtFrom h⟩
  | none, some list, h => exact ⟨_, ofMemoryList_builtFrom h⟩

end AddressSpace

end Minidump
