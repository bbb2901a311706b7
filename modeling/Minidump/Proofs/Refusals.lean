import Minidump.Proofs.Translation

/-!
# What a memory list is refused for

A list that describes no address space can have many faults: several ranges without an end,
and ranges that share addresses with many others. The cause that is reported is that of the
first descriptor that cannot be added, and of all earlier ranges that it shares addresses
with it names the lowest one, although only its two neighbours are looked at.

- `Region.Overlaps`, `AddressSpace.LowestOverlap` — what may be named next to a region;
- `AddressSpace.Refusal` — why a region is not added behind the ones before it;
- `AddressSpace.FirstRefusal` — the first one of a list that is not;
- `AddressSpace.insert_eq_error_iff`, `AddressSpace.place_eq_error_iff` — one step: from what
  was built, exactly these regions are refused;
- `AddressSpace.foldlM_place_eq_error_iff` — the run through a list;
- `AddressSpace.refused_for_first_offender` — this for both kinds of lists.
-/

namespace Minidump

/-- Two regions share an address. -/
def Region.Overlaps (r s : Region) : Prop :=
  ∃ address, r.range.Contains address ∧ s.range.Contains address

namespace AddressSpace

/-- Of the earlier regions that share an address with a region, one that starts first. -/
structure LowestOverlap (earlier : List Region) (region other : Region) : Prop where
  mem : other ∈ earlier
  overlaps : other.Overlaps region
  start_le : ∀ r ∈ earlier, r.Overlaps region → other.range.start ≤ r.range.start

/-- Why a region cannot be added behind earlier ones: it has no end, or else it shares
addresses with one of them, or else its bytes have no end. -/
inductive Refusal (earlier : List Region) (region : Region) : Error → Prop where
  | stop (hstop : addressLimit ≤ region.range.stop) :
      Refusal earlier region (.regionOverflow region.range.start region.range.length)
  | overlap {other : Region} (hstop : region.range.stop < addressLimit)
      (hother : LowestOverlap earlier region other) :
      Refusal earlier region (.regionOverlap region.range other.range)
  | offset (hstop : region.range.stop < addressLimit)
      (hapart : ∀ r ∈ earlier, ¬ r.Overlaps region)
      (hoffset : addressLimit ≤ region.offset + region.range.length) :
      Refusal earlier region (.overflow .memory64Offset)

/-- Why the first of the regions that cannot be added behind those before it cannot be. -/
def FirstRefusal (described : List Region) (cause : Error) : Prop :=
  ∃ (index : Nat) (region : Region), described[index]? = some region ∧
    Refusal (described.take index) region cause ∧
    ∀ earlier < index, ∀ r, described[earlier]? = some r →
      ∀ other, ¬ Refusal (described.take earlier) r other

variable {space : AddressSpace} {earlier described : List Region}

/-! ## Adding one region -/

/-- Regions that were added share addresses with another one iff they reach into it, if it
has any. -/
theorem BuiltFrom.overlaps_iff (h : BuiltFrom space earlier) {region r : Region}
    (hregion : ¬ region.range.IsEmpty) :
    (r ∈ earlier ∧ r.Overlaps region) ↔ r ∈ space.regions ∧ r.range.Meets region.range := by
  constructor
  · rintro ⟨hr, address, hraddress, haddress⟩
    have hempty := hraddress.not_isEmpty
    exact ⟨(h.mem_iff r).mpr ⟨hr, hempty⟩,
      (AddressRange.meets_iff_exists_contains hempty hregion).mpr ⟨address, hraddress, haddress⟩⟩
  · rintro ⟨hr, hmeets⟩
    obtain ⟨hmem, hempty⟩ := (h.mem_iff r).mp hr
    exact ⟨hmem, (AddressRange.meets_iff_exists_contains hempty hregion).mp hmeets⟩

/-- The first region in address order that is reached is the lowest earlier one that shares
an address. -/
theorem BuiltFrom.lowestOverlap_of_find? (h : BuiltFrom space earlier) {region other : Region}
    (hregion : ¬ region.range.IsEmpty)
    (hfind : space.regions.find? (fun r => r.range.Meets region.range) = some other) :
    LowestOverlap earlier region other := by
  have hmeets : other.range.Meets region.range := by simpa using List.find?_some hfind
  obtain ⟨hmem, hoverlaps⟩ :=
    (h.overlaps_iff hregion).mpr ⟨List.mem_of_find?_eq_some hfind, hmeets⟩
  refine ⟨hmem, hoverlaps, fun r hr hroverlaps => ?_⟩
  obtain ⟨hrmem, hrmeets⟩ := (h.overlaps_iff hregion).mp ⟨hr, hroverlaps⟩
  obtain ⟨-, below, above, hsplit, hbelow⟩ := List.find?_eq_some_iff_append.mp hfind
  have hstarts := h.ordered.starts
  rw [hsplit] at hrmem hstarts
  -- whatever is below the first one that is reached is not reached
  rcases List.mem_append.mp hrmem with hr | hr
  · have := hbelow r hr
    simp [hrmeets] at this
  · rcases List.mem_cons.mp hr with rfl | hr
    · exact Nat.le_refl _
    · have habove := (List.pairwise_cons.mp (List.pairwise_append.mp hstarts).2.1).1 r hr
      exact Nat.le_of_lt habove

/-- There is only one lowest earlier region that shares an address, as no two of those that
were added share one: not even the one that both start at. -/
theorem BuiltFrom.lowestOverlap_unique (h : BuiltFrom space earlier) {region r s : Region}
    (hr : LowestOverlap earlier region r) (hs : LowestOverlap earlier region s) : r = s := by
  have hstart : r.range.start = s.range.start :=
    Nat.le_antisymm (hr.start_le s hs.mem hs.overlaps) (hs.start_le r hr.mem hr.overlaps)
  obtain ⟨_, ⟨hrstart, hrstop⟩, -⟩ := hr.overlaps
  obtain ⟨_, ⟨hsstart, hsstop⟩, -⟩ := hs.overlaps
  have hrcontains : r.range.Contains r.range.start := ⟨Nat.le_refl _, by omega⟩
  have hscontains : s.range.Contains r.range.start := ⟨by omega, by omega⟩
  have hrfound := h.region?_eq_some_iff.mpr ⟨hr.mem, hrcontains⟩
  have hsfound := h.region?_eq_some_iff.mpr ⟨hs.mem, hscontains⟩
  exact Option.some.inj (hrfound.symm.trans hsfound)

/-- An insertion is refused iff an earlier region shares an address, and what is named is the
lowest of these. -/
theorem insert_eq_error_iff (h : BuiltFrom space earlier) {region : Region} {cause : Error} :
    space.insert region = .error cause ↔
      ∃ other, LowestOverlap earlier region other ∧
        cause = .regionOverlap region.range other.range := by
  rcases insert_cases h.ordered region with
    ⟨hempty, hinsert⟩ | ⟨hempty, found, hfind, hinsert⟩ | ⟨hempty, hapart, hinsert⟩
  · rw [hinsert]
    refine ⟨fun herror => (nomatch herror), ?_⟩
    rintro ⟨other, ⟨-, ⟨address, -, haddress⟩, -⟩, -⟩
    exact absurd hempty haddress.not_isEmpty
  · have hfound := h.lowestOverlap_of_find? hempty hfind
    rw [hinsert]
    constructor
    · intro herror
      exact ⟨found, hfound, (Except.error.inj herror).symm⟩
    · rintro ⟨other, hother, rfl⟩
      rw [h.lowestOverlap_unique hfound hother]
  · rw [hinsert]
    refine ⟨fun herror => (nomatch herror), ?_⟩
    rintro ⟨other, hother, -⟩
    obtain ⟨hmem, hmeets⟩ := (h.overlaps_iff hempty).mp ⟨hother.mem, hother.overlaps⟩
    exact absurd hmeets (hapart other hmem)

/-- What is added to regions that were added shares no address with any of them. -/
theorem not_overlaps_of_insert (h : BuiltFrom space earlier) {region : Region}
    {space' : AddressSpace} (hinsert : space.insert region = .ok space') :
    ∀ r ∈ earlier, ¬ r.Overlaps region := by
  rintro r hr ⟨address, hraddress, haddress⟩
  have hmem : r ∈ space.regions := (h.mem_iff r).mpr ⟨hr, hraddress.not_isEmpty⟩
  exact apart_of_insert h.ordered hinsert r hmem address ⟨hraddress, haddress⟩

/-- One step: a described region is refused for the reason there is, if there is one. -/
theorem place_eq_error_iff (h : BuiltFrom space earlier) {region : Region} {cause : Error} :
    space.place region = .error cause ↔ Refusal earlier region cause := by
  unfold place
  by_cases hstop : addressLimit ≤ region.range.stop
  · rw [if_pos hstop]
    constructor
    · rintro ⟨⟩
      exact .stop hstop
    · intro hrefusal
      cases hrefusal with
      | stop => rfl
      | overlap hlt => exact absurd hstop (Nat.not_le.mpr hlt)
      | offset hlt => exact absurd hstop (Nat.not_le.mpr hlt)
  · have hlt : region.range.stop < addressLimit := Nat.not_le.mp hstop
    rw [if_neg hstop, bind_eq_error_iff, insert_eq_error_iff h]
    constructor
    · rintro (⟨other, hother, rfl⟩ | ⟨space', hinsert, hcause⟩)
      · exact .overlap hlt hother
      · by_cases hoffset : addressLimit ≤ region.offset + region.range.length
        · rw [if_pos hoffset] at hcause
          cases hcause
          exact .offset hlt (not_overlaps_of_insert h hinsert) hoffset
        · rw [if_neg hoffset] at hcause
          cases hcause
    · intro hrefusal
      cases hrefusal with
      | stop hle => exact absurd hle hstop
      | overlap _ hother => exact .inl ⟨_, hother, rfl⟩
      | offset _ hapart hoffset =>
        -- nothing is in its way, so that it is the bytes that have no end
        cases hinsert : space.insert region with
        | error found =>
          obtain ⟨other, hother, -⟩ := (insert_eq_error_iff h).mp hinsert
          exact absurd hother.overlaps (hapart other hother.mem)
        | ok space' => exact .inr ⟨space', rfl, if_pos hoffset⟩

/-! ## Adding one region after the other -/

/-- The elements of a prefix are those of the list before its end. -/
theorem getElem?_take_eq_some_iff {α : Type} {as : List α} {count index : Nat} {a : α} :
    (as.take count)[index]? = some a ↔ index < count ∧ as[index]? = some a := by
  rw [List.getElem?_take, Option.ite_none_right_eq_some]

/-- The run: regions are refused for the first of them that has to be refused behind those
before it. -/
theorem foldlM_place_eq_error_iff {bitness : Bitness} {cause : Error} :
    described.foldlM place { bitness, regions := [] } = .error cause ↔
      FirstRefusal described cause := by
  rw [foldlM_eq_error_iff]
  constructor
  · rintro ⟨index, region, space, hregion, hprefix, hstep⟩
    refine ⟨index, region, hregion,
      (place_eq_error_iff (builtFrom_of_foldlM_place hprefix)).mp hstep, ?_⟩
    intro earlier hlt r hr other hrefusal
    -- the run has passed this region
    obtain ⟨before, next, hbefore, hpassed⟩ :=
      exists_step_of_foldlM hprefix (getElem?_take_eq_some_iff.mpr ⟨hlt, hr⟩)
    rw [List.take_take, Nat.min_eq_left (Nat.le_of_lt hlt)] at hbefore
    have herror := (place_eq_error_iff (builtFrom_of_foldlM_place hbefore)).mpr hrefusal
    cases hpassed.symm.trans herror
  · rintro ⟨index, region, hregion, hrefusal, hfirst⟩
    cases hprefix : (described.take index).foldlM place { bitness, regions := [] } with
    | ok space =>
      exact ⟨index, region, space, hregion, hprefix,
        (place_eq_error_iff (builtFrom_of_foldlM_place hprefix)).mpr hrefusal⟩
    | error found =>
      -- then an earlier one would have been refused
      obtain ⟨earlier, r, before, hr, hbefore, hstep⟩ := foldlM_eq_error_iff.mp hprefix
      obtain ⟨hlt, hr⟩ := getElem?_take_eq_some_iff.mp hr
      rw [List.take_take, Nat.min_eq_left (Nat.le_of_lt hlt)] at hbefore
      exact absurd ((place_eq_error_iff (builtFrom_of_foldlM_place hbefore)).mp hstep)
        (hfirst earlier hlt r hr found)

/-- Of two regions that a refusal names, the second one is described before the first one, and
the two share an address. -/
theorem FirstRefusal.overlaps {range other : AddressRange}
    (h : FirstRefusal described (.regionOverlap range other)) :
    ∃ (i j : Nat) (r s : Region), described[i]? = some r ∧ described[j]? = some s ∧ j < i ∧
      r.range = range ∧ s.range = other ∧ s.Overlaps r := by
  obtain ⟨i, r, hr, hrefusal, -⟩ := h
  cases hrefusal with
  | @overlap s _ hother =>
    obtain ⟨j, hmem⟩ := List.mem_iff_getElem?.mp hother.mem
    obtain ⟨hlt, hj⟩ := getElem?_take_eq_some_iff.mp hmem
    exact ⟨i, j, r, s, hr, hj, hlt, rfl, rfl, hother.overlaps⟩

/-! ## The two kinds of lists -/

/-- A described region of a 64-bit list has the numbers of its descriptor, and its bytes end
behind those of all descriptors up to and including its own. -/
theorem described64_getElem? {list : Memory64List} {index : Nat} {region : Region}
    (h : list.described[index]? = some region) :
    ∃ d, list.ranges[index]? = some d ∧ region.range.start = d.start.toNat ∧
      region.range.stop = d.start.toNat + d.size.toNat ∧ region.range.length = d.size.toNat ∧
      region.offset + region.range.length =
        list.baseOffset.toNat + ((list.ranges.take (index + 1)).map fun d => d.size.toNat).sum := by
  unfold Memory64List.described at h
  rw [List.getElem?_mapIdx] at h
  obtain ⟨d, hd, rfl⟩ := Option.map_eq_some_iff.mp h
  have hlength : (d.regionAt (list.offsetOf index)).range.length = d.size.toNat :=
    Nat.add_sub_cancel_left ..
  refine ⟨d, hd, rfl, rfl, hlength, ?_⟩
  rw [hlength, List.take_add_one, hd]
  simp [MemoryDescriptor64.regionAt, Memory64List.offsetOf, Nat.add_assoc]

/-- A described region of a memory list has the numbers of its descriptor. -/
theorem described_getElem? {list : MemoryList} {index : Nat} {region : Region}
    (h : list.described[index]? = some region) :
    ∃ d, list.ranges[index]? = some d ∧ region.range.start = d.start.toNat ∧
      region.range.stop = d.start.toNat + d.location.size.toNat ∧
      region.range.length = d.location.size.toNat := by
  unfold MemoryList.described at h
  rw [List.getElem?_map] at h
  obtain ⟨d, hd, rfl⟩ := Option.map_eq_some_iff.mp h
  exact ⟨d, hd, rfl, rfl, Nat.add_sub_cancel_left ..⟩

theorem ofMemoryList_eq_error_iff (list : MemoryList) (cause : Error) :
    ofMemoryList list = .error cause ↔ FirstRefusal list.described cause := by
  unfold ofMemoryList
  rw [insertList_eq_foldlM]
  exact foldlM_place_eq_error_iff

theorem ofMemory64List_eq_error_iff (list : Memory64List) (cause : Error) :
    ofMemory64List list = .error cause ↔ FirstRefusal list.described cause := by
  unfold ofMemory64List
  rw [insertList64_eq_foldlM, ← Memory64List.described_eq_regionsFrom]
  exact foldlM_place_eq_error_iff

/-- The bytes of a memory list always have an end. -/
theorem ofMemoryList_ne_offset (list : MemoryList) :
    ofMemoryList list ≠ .error (.overflow .memory64Offset) := by
  intro h
  obtain ⟨index, region, hregion, hrefusal, -⟩ := (ofMemoryList_eq_error_iff list _).mp h
  cases hrefusal with
  | offset _ _ hoffset =>
    obtain ⟨d, -, rfl⟩ := List.mem_map.mp (List.mem_of_getElem? hregion)
    exact absurd (offset_lt_of_descriptor d) (Nat.not_lt.mpr hoffset)

/-- **A list is refused for its first offender, next to the lowest range that this one
overlaps.** A list is refused with a cause iff the first of its descriptors that cannot be
added behind those before it cannot be for this cause: its addresses have no end, or else it
shares addresses with earlier ones, of which the lowest one is named, or else its bytes and
those of all descriptors before it have no end, which happens to 64-bit lists only. -/
theorem refused_for_first_offender :
    (∀ (list : Memory64List) (cause : Error),
      ofMemory64List list = .error cause ↔ FirstRefusal list.described cause) ∧
    (∀ (list : MemoryList) (cause : Error),
      ofMemoryList list = .error cause ↔ FirstRefusal list.described cause) ∧
    (∀ list : MemoryList, ofMemoryList list ≠ .error (.overflow .memory64Offset)) ∧
    (∀ (list : Memory64List) (index : Nat) (region : Region),
      list.described[index]? = some region →
        ∃ d, list.ranges[index]? = some d ∧ region.range.start = d.start.toNat ∧
          region.range.stop = d.start.toNat + d.size.toNat ∧ region.range.length = d.size.toNat ∧
          region.offset + region.range.length = list.baseOffset.toNat
            + ((list.ranges.take (index + 1)).map fun d => d.size.toNat).sum) ∧
    (∀ (list : MemoryList) (index : Nat) (region : Region),
      list.described[index]? = some region →
        ∃ d, list.ranges[index]? = some d ∧ region.range.start = d.start.toNat ∧
          region.range.stop = d.start.toNat + d.location.size.toNat ∧
          region.range.length = d.location.size.toNat) ∧
    (∀ (described : List Region) (range other : AddressRange),
      FirstRefusal described (.regionOverlap range other) →
        ∃ (i j : Nat) (r s : Region), described[i]? = some r ∧ described[j]? = some s ∧ j < i ∧
          r.range = range ∧ s.range = other ∧ s.Overlaps r) ∧
    (∀ (start size : Nat) (range other : AddressRange),
      (Error.regionOverflow start size).message = "invalid address space: region "
        ++ Text.hexTagged start ++ " of " ++ Text.hexTagged size ++ " bytes overflows" ∧
      (Error.regionOverlap range other).message = "invalid address space: region "
        ++ range.text ++ " overlaps with " ++ other.text ∧
      (Error.overflow .memory64Offset).message = "overflow: memory64 list rva") := by
  refine ⟨ofMemory64List_eq_error_iff, ofMemoryList_eq_error_iff, ofMemoryList_ne_offset,
    ?_, ?_, ?_, ?_⟩
  · exact fun _ _ _ => described64_getElem?
  · exact fun _ _ _ => described_getElem?
  · exact fun _ _ _ => FirstRefusal.overlaps
  · intro start size range other
    exact ⟨rfl, rfl, rfl⟩

/-- A range that covers three earlier ones is refused for the lowest of them, neither the first
nor the closest one, and before a later range without an end; the bytes of a range that touches
no other one may have no end. -/
theorem refused_for_first_offender_covering :
    (let list : Memory64List := {
        baseOffset := 0x1000
        ranges := [⟨0x3000, 0x100⟩, ⟨0x1000, 0x100⟩, ⟨0x900, 0⟩, ⟨0x2000, 0x100⟩,
          ⟨0x800, 0x4000⟩, ⟨0xffffffffffffffff, 0x10⟩] };
      FirstRefusal list.described (.regionOverlap ⟨0x800, 0x4800⟩ ⟨0x1000, 0x1100⟩)) ∧
    (let list : Memory64List := {
        baseOffset := 0xfffffffffffffff0, ranges := [⟨0x1000, 0xf⟩, ⟨0x2000, 1⟩] };
      FirstRefusal list.described (.overflow .memory64Offset)) ∧
    (let list : MemoryList := {
        ranges := [⟨0x1000, ⟨0x10, 0x40⟩⟩, ⟨0xfffffffffffffff0, ⟨0x10, 0x50⟩⟩] };
      FirstRefusal list.described (.regionOverflow 0xfffffffffffffff0 0x10)) := by
  obtain ⟨hwide, hnarrow, -⟩ := refused_for_first_offender
  refine ⟨(hwide _ _).mp ?_, (hwide _ _).mp ?_, (hnarrow _ _).mp ?_⟩
  · decide
  · decide
  · decide

end AddressSpace

end Minidump
