import Minidump.Proofs.Descriptions
import Minidump.Proofs.Gives

/-!
# Which memory lists make up an address space

A new region is measured against its two neighbours only, and the descriptors of a list
come in no particular order. Here is what this amounts to for a whole list: it is accepted
iff no two of its descriptors share an address and no computed number needs more than 64
bits, and then each of its descriptors that has addresses is there, once, in address order
and with its own offset. So the order of a memory list makes no difference at all.

- `AddressSpace.Acceptable` — what a list has to describe to be accepted;
- `AddressSpace.Tabulates` — the regions are the described ones that have addresses, in
  address order;
- `AddressSpace.exists_foldlM_insert`, `AddressSpace.foldlM_insert_perm` — a run of
  insertions refuses no region that shares no address with another one, and loses none;
- `AddressSpace.Tabulates.eq_of_perm` — the described regions, in any order, leave no
  choice of the address space;
- `AddressSpace.accepts_exactly_disjoint_lists` — this for both kinds of lists, with the
  width of a pointer and the choice between the two lists.
-/

namespace Minidump

namespace Region

theorem Apart.symm {r s : Region} (h : r.Apart s) : s.Apart r :=
  fun address hboth => h address hboth.symm

/-- Regions of which one ends before the other one starts share no address. -/
theorem apart_of_stop_le {r s : Region} (h : r.range.stop ≤ s.range.start) : r.Apart s := by
  rintro address ⟨⟨-, hr⟩, ⟨hs, -⟩⟩
  omega

end Region

namespace AddressSpace

/-- Described regions that an address space can be made of: no end is beyond 64 bits, and
no two of them share an address. A region without addresses shares none. -/
structure Acceptable (described : List Region) : Prop where
  stop_lt : ∀ r ∈ described, r.range.stop < addressLimit
  apart : described.Pairwise Region.Apart

/-- The described regions that have addresses. -/
def occupied (described : List Region) : List Region :=
  described.filter fun r => ¬ r.range.IsEmpty

/-- The regions of an address space are the described ones that have addresses, each one
as often as it is described, by increasing start, and no two of them share an address. -/
structure Tabulates (space : AddressSpace) (described : List Region) : Prop where
  perm : space.regions.Perm (occupied described)
  starts : space.regions.Pairwise fun r s => r.range.start < s.range.start
  apart : space.regions.Pairwise Region.Apart

variable {space space' : AddressSpace}

/-! ## Adding one region -/

theorem bitness_insert {region : Region} (h : space.insert region = .ok space') :
    space'.bitness = space.bitness := by
  unfold insert at h
  by_cases hempty : region.range.IsEmpty
  · rw [if_pos hempty] at h
    rw [← Except.ok.inj h]
  · rw [if_neg hempty] at h
    cases hother : space.overlapping? region.range with
    | some other =>
      rw [hother] at h
      cases h
    | none =>
      rw [hother] at h
      rw [← Except.ok.inj h]

/-- An insertion adds the region, unless it has no addresses, and nothing else. -/
theorem insert_perm (hspace : Region.Ordered space.regions) {region : Region}
    (h : space.insert region = .ok space') :
    space'.regions.Perm (occupied [region] ++ space.regions) := by
  rcases of_insert_eq_ok hspace h with ⟨hempty, rfl⟩ | ⟨hempty, -, rfl⟩
  · rw [occupied, List.filter_cons_of_neg (by simpa using hempty)]
    exact List.Perm.refl _
  · rw [occupied, List.filter_cons_of_pos (by simpa using hempty),
      ← upTo_append_after space region.range.start]
    exact List.perm_middle

/-- A region that shares no address with those that are there is accepted. -/
theorem exists_insert_of_apart (hspace : Region.Ordered space.regions) {region : Region}
    (hapart : ∀ r ∈ space.regions, r.Apart region) :
    ∃ space', space.insert region = .ok space' := by
  rcases insert_cases hspace region with ⟨-, hok⟩ | ⟨hempty, other, hfind, -⟩ | ⟨-, -, hok⟩
  · exact ⟨_, hok⟩
  · -- a region that is met shares an address, as both have some
    have hmem : other ∈ space.regions := List.mem_of_find?_eq_some hfind
    have hmeets : other.range.Meets region.range := by simpa using List.find?_some hfind
    obtain ⟨address, hshared⟩ :=
      (AddressRange.meets_iff_exists_contains (hspace.occupied other hmem) hempty).mp hmeets
    exact absurd hshared (hapart other hmem address)
  · exact ⟨_, hok⟩

/-! ## Adding one region after the other -/

theorem bitness_foldlM_insert (regions : List Region)
    (h : regions.foldlM insert space = .ok space') : space'.bitness = space.bitness := by
  induction regions generalizing space with
  | nil =>
    cases h
    rfl
  | cons region regions ih =>
    rw [List.foldlM_cons] at h
    obtain ⟨middle, hinsert, hrest⟩ := bind_eq_ok_iff.mp h
    rw [ih hrest, bitness_insert hinsert]

theorem foldlM_insert_perm (regions : List Region) (hspace : Region.Ordered space.regions)
    (h : regions.foldlM insert space = .ok space') :
    space'.regions.Perm (occupied regions ++ space.regions) := by
  induction regions generalizing space with
  | nil =>
    cases h
    exact List.Perm.refl _
  | cons region regions ih =>
    rw [List.foldlM_cons] at h
    obtain ⟨middle, hinsert, hrest⟩ := bind_eq_ok_iff.mp h
    have hsplit : occupied (region :: regions) = occupied [region] ++ occupied regions :=
      List.filter_append [region] regions
    have hmiddle : (occupied regions ++ middle.regions).Perm
        (occupied regions ++ (occupied [region] ++ space.regions)) :=
      (insert_perm hspace hinsert).append_left _
    have hswap : (occupied regions ++ (occupied [region] ++ space.regions)).Perm
        (occupied (region :: regions) ++ space.regions) := by
      rw [hsplit, ← List.append_assoc]
      exact List.perm_append_comm.append_right _
    exact (ih (insert_ordered hspace hinsert) hrest).trans (hmiddle.trans hswap)

/-- Regions are accepted one after the other if none of them shares an address with
another one or with one that is there already. -/
theorem exists_foldlM_insert (regions : List Region) (hspace : Region.Ordered space.regions)
    (hapart : regions.Pairwise Region.Apart)
    (hacross : ∀ r ∈ space.regions, ∀ s ∈ regions, r.Apart s) :
    ∃ space', regions.foldlM insert space = .ok space' := by
  induction regions generalizing space with
  | nil => exact ⟨space, rfl⟩
  | cons region regions ih =>
    obtain ⟨hfirst, hrest⟩ := List.pairwise_cons.mp hapart
    obtain ⟨middle, hinsert⟩ := exists_insert_of_apart hspace fun r hr =>
      hacross r hr region List.mem_cons_self
    -- what is there now was there before or is the new region
    have hmiddle : ∀ r ∈ middle.regions, ∀ s ∈ regions, r.Apart s := by
      intro r hr s hs
      rcases (mem_insert hspace hinsert r).mp hr with hr | ⟨rfl, -⟩
      · exact hacross r hr s (List.mem_cons_of_mem _ hs)
      · exact hfirst s hs
    obtain ⟨space', hfold⟩ := ih (insert_ordered hspace hinsert) hrest hmiddle
    refine ⟨space', ?_⟩
    rw [List.foldlM_cons, hinsert]
    exact hfold

/-- Starting from nothing, what decides is whether two of the regions share an address. -/
theorem exists_foldlM_insert_iff (bitness : Bitness) (regions : List Region) :
    (∃ space, regions.foldlM insert { bitness, regions := [] } = .ok space) ↔
      regions.Pairwise Region.Apart := by
  constructor
  · rintro ⟨space, h⟩
    exact (foldlM_insert regions Region.Ordered.nil h).2.2.1
  · intro hapart
    exact exists_foldlM_insert regions Region.Ordered.nil hapart fun _ hr => nomatch hr

/-- What comes out, starting from nothing. -/
theorem tabulates_of_foldlM {bitness : Bitness} {regions : List Region}
    (h : regions.foldlM insert { bitness, regions := [] } = .ok space) :
    Tabulates space regions where
  perm := by simpa using foldlM_insert_perm regions Region.Ordered.nil h
  starts := (foldlM_insert regions Region.Ordered.nil h).1.starts
  apart := (foldlM_insert regions Region.Ordered.nil h).1.apart.imp Region.apart_of_stop_le

/-! ## Order makes no difference -/

theorem Acceptable.of_perm {described described' : List Region} (h : Acceptable described)
    (hperm : described.Perm described') : Acceptable described' where
  stop_lt := fun r hr => h.stop_lt r (hperm.mem_iff.mpr hr)
  apart := (hperm.pairwise_iff Region.Apart.symm).mp h.apart

/-- Two address spaces that tabulate the same regions, described in any order, have the
same regions in the same order. -/
theorem Tabulates.eq_of_perm {described described' : List Region} (h : Tabulates space described)
    (h' : Tabulates space' described') (hperm : described.Perm described')
    (hbitness : space.bitness = space'.bitness) : space = space' := by
  have hregions : space.regions.Perm space'.regions :=
    (h.perm.trans (hperm.filter _)).trans h'.perm.symm
  have hsame : space.regions = space'.regions := by
    refine hregions.eq_of_pairwise ?_ h.starts h'.starts
    intro r s _ _ hrs hsr
    omega
  cases space
  cases space'
  rw [AddressSpace.mk.injEq]
  exact ⟨hbitness, hsame⟩

theorem bitnessOf_eq_of_perm {ranges ranges' : List MemoryDescriptor}
    (hperm : ranges.Perm ranges') : bitnessOf ranges = bitnessOf ranges' := by
  unfold bitnessOf
  rw [hperm.any_eq]

theorem bitnessOf_eq_bits32_iff (ranges : List MemoryDescriptor) :
    bitnessOf ranges = .bits32 ↔ ∀ d ∈ ranges, d.start.toNat ≤ 0xffffffff := by
  unfold bitnessOf
  by_cases hany : (ranges.any fun d => last32BitAddress < d.start.toNat) = true
  · rw [if_pos hany]
    obtain ⟨d, hd, hhigh⟩ := List.any_eq_true.mp hany
    refine ⟨fun h => (nomatch h), fun hlow => absurd (hlow d hd) ?_⟩
    exact Nat.not_le.mpr (of_decide_eq_true hhigh)
  · rw [if_neg hany]
    refine ⟨fun _ d hd => Nat.le_of_not_lt fun hhigh => hany ?_, fun _ => rfl⟩
    exact List.any_eq_true.mpr ⟨d, hd, decide_eq_true hhigh⟩

/-! ## The two kinds of lists -/

/-- Each offset stays below 2⁶⁴ iff the one behind the last byte does. -/
theorem offset_lt_iff (ranges : List MemoryDescriptor64) {offset : Nat}
    (hoffset : offset < addressLimit) :
    (∀ r ∈ MemoryDescriptor64.regionsFrom offset ranges,
        r.offset + r.range.length < addressLimit) ↔
      offset + (ranges.map fun d => d.size.toNat).sum < addressLimit := by
  induction ranges generalizing offset with
  | nil => exact ⟨fun _ => hoffset, fun _ r hr => nomatch hr⟩
  | cons d ranges ih =>
    have hlength : (d.regionAt offset).range.length = d.size.toNat := Nat.add_sub_cancel_left ..
    have hfirst : (d.regionAt offset).offset = offset := rfl
    rw [MemoryDescriptor64.regionsFrom, List.forall_mem_cons, hlength, hfirst, List.map_cons,
      List.sum_cons, ← Nat.add_assoc]
    by_cases hnext : offset + d.size.toNat < addressLimit
    · rw [ih hnext]
      exact ⟨fun h => h.2, fun h => ⟨hnext, h⟩⟩
    · -- the sum over the whole list is no smaller than its first part
      refine ⟨fun h => absurd h.1 hnext, fun h => absurd ?_ hnext⟩
      exact Nat.lt_of_le_of_lt (Nat.le_add_right ..) h

theorem exists_ofMemoryList_iff (list : MemoryList) :
    (∃ space, ofMemoryList list = .ok space) ↔ Acceptable list.described := by
  unfold ofMemoryList
  simp only [insertList_eq_ok_iff, exists_and_left, exists_foldlM_insert_iff]
  exact ⟨fun h => ⟨h.1, h.2⟩, fun h => ⟨h.stop_lt, h.apart⟩⟩

theorem exists_ofMemory64List_iff (list : Memory64List) :
    (∃ space, ofMemory64List list = .ok space) ↔
      Acceptable list.described ∧
        list.baseOffset.toNat + (list.ranges.map fun d => d.size.toNat).sum < addressLimit := by
  unfold ofMemory64List
  have hbase : list.baseOffset.toNat < addressLimit := list.baseOffset.toNat_lt
  simp only [insertList64_eq_ok_iff, exists_and_left, exists_foldlM_insert_iff,
    offset_lt_iff list.ranges hbase, Memory64List.described_eq_regionsFrom]
  exact ⟨fun h => ⟨⟨h.1, h.2.2⟩, h.2.1⟩, fun h => ⟨h.1.stop_lt, h.2, h.1.apart⟩⟩

theorem tabulates_of_ofMemoryList {list : MemoryList} (h : ofMemoryList list = .ok space) :
    Tabulates space list.described :=
  tabulates_of_foldlM ((insertList_eq_ok_iff list.ranges).mp h).2

theorem tabulates_of_ofMemory64List {list : Memory64List}
    (h : ofMemory64List list = .ok space) : Tabulates space list.described := by
  rw [Memory64List.described_eq_regionsFrom]
  exact tabulates_of_foldlM ((insertList64_eq_ok_iff _ list.ranges).mp h).2.2

theorem bitness_of_ofMemoryList {list : MemoryList} (h : ofMemoryList list = .ok space) :
    space.bitness = bitnessOf list.ranges :=
  bitness_foldlM_insert _ ((insertList_eq_ok_iff list.ranges).mp h).2

theorem bitness_of_ofMemory64List {list : Memory64List}
    (h : ofMemory64List list = .ok space) : space.bitness = .bits64 :=
  bitness_foldlM_insert _ ((insertList64_eq_ok_iff _ list.ranges).mp h).2.2

/-- A memory list in another order has the same address space. -/
theorem ofMemoryList_of_perm {ranges ranges' : List MemoryDescriptor}
    (hperm : ranges.Perm ranges') (h : ofMemoryList ⟨ranges⟩ = .ok space) :
    ofMemoryList ⟨ranges'⟩ = .ok space := by
  have hdescribed : (MemoryList.mk ranges).described.Perm (MemoryList.mk ranges').described :=
    hperm.map MemoryDescriptor.region
  have hacceptable := (exists_ofMemoryList_iff ⟨ranges⟩).mp ⟨space, h⟩
  obtain ⟨space', h'⟩ := (exists_ofMemoryList_iff ⟨ranges'⟩).mpr (hacceptable.of_perm hdescribed)
  have hbitness : space.bitness = space'.bitness := by
    rw [bitness_of_ofMemoryList h, bitness_of_ofMemoryList h']
    exact bitnessOf_eq_of_perm hperm
  rw [h', (tabulates_of_ofMemoryList h).eq_of_perm (tabulates_of_ofMemoryList h') hdescribed
    hbitness]

theorem bitness_of_ofLists {memory : Option MemoryList} {memory64 : Option Memory64List}
    (h : ofLists memory memory64 = .ok space) :
    space.bitness = .bits32 ↔
      memory64 = none ∧ ∀ list ∈ memory, ∀ d ∈ list.ranges, d.start.toNat ≤ 0xffffffff := by
  match memory64, memory, h with
  | some list, _, h =>
    rw [bitness_of_ofMemory64List h]
    exact ⟨fun h => (nomatch h), fun h => (nomatch h.1)⟩
  | none, some list, h =>
    rw [bitness_of_ofMemoryList h, bitnessOf_eq_bits32_iff]
    constructor
    · rintro hlow
      refine ⟨rfl, fun l hl => ?_⟩
      cases hl
      exact hlow
    · rintro ⟨-, hlow⟩
      exact hlow list rfl

/-- **Exactly the lists without overlaps are accepted, and nothing of them is lost.** A list
is accepted iff no range ends beyond 64 bits and no two ranges share an address, for a
64-bit list also iff its bytes end below 2⁶⁴; the address space then tabulates the list.
Pointers are narrow iff there is no 64-bit list and no range starts too high, a 64-bit list
counts alone even if it is refused, and a memory list in another order is accepted with
the same address space or refused like the first one. -/
theorem accepts_exactly_disjoint_lists :
    (∀ list : Memory64List, (∃ space, ofMemory64List list = .ok space) ↔
      Acceptable list.described ∧
        list.baseOffset.toNat + (list.ranges.map fun d => d.size.toNat).sum < addressLimit) ∧
    (∀ list : MemoryList, (∃ space, ofMemoryList list = .ok space) ↔
      Acceptable list.described) ∧
    (∀ (list : Memory64List) (space : AddressSpace), ofMemory64List list = .ok space →
      Tabulates space list.described) ∧
    (∀ (list : MemoryList) (space : AddressSpace), ofMemoryList list = .ok space →
      Tabulates space list.described) ∧
    (∀ (memory : Option MemoryList) (memory64 : Option Memory64List) (space : AddressSpace),
      ofLists memory memory64 = .ok space →
        (space.bitness = .bits32 ↔
          memory64 = none ∧ ∀ list ∈ memory, ∀ d ∈ list.ranges, d.start.toNat ≤ 0xffffffff)) ∧
    (∀ (memory : Option MemoryList) (list : Memory64List),
      ofLists memory (some list) = ofMemory64List list) ∧
    (∀ ranges ranges' : List MemoryDescriptor, ranges.Perm ranges' →
      ∀ space, ofMemoryList ⟨ranges⟩ = .ok space ↔ ofMemoryList ⟨ranges'⟩ = .ok space) := by
  refine ⟨exists_ofMemory64List_iff, exists_ofMemoryList_iff, ?_, ?_, ?_, ?_, ?_⟩
  · exact fun _ _ => tabulates_of_ofMemory64List
  · exact fun _ _ => tabulates_of_ofMemoryList
  · exact fun _ _ _ => bitness_of_ofLists
  · exact fun _ _ => rfl
  · intro ranges ranges' hperm space
    exact ⟨ofMemoryList_of_perm hperm, ofMemoryList_of_perm hperm.symm⟩

/-- Ranges that touch, an empty one inside another one, and one that ends as late as a range
can. -/
theorem accepts_exactly_disjoint_lists_touching :
    (let list : Memory64List := {
        baseOffset := 0x1000
        ranges := [⟨0x2000, 0x100⟩, ⟨0x1f00, 0x100⟩, ⟨0x2010, 0⟩, ⟨0xfffffffffffffff0, 0xf⟩] };
      let space : AddressSpace := {
        bitness := .bits64
        regions := [⟨⟨0x1f00, 0x2000⟩, 0x1100⟩, ⟨⟨0x2000, 0x2100⟩, 0x1000⟩,
          ⟨⟨0xfffffffffffffff0, 0xffffffffffffffff⟩, 0x1200⟩] };
      ofLists none (some list) = .ok space ∧ Tabulates space list.described ∧
        space.bitness ≠ .bits32) ∧
    (let ranges : List MemoryDescriptor :=
        [⟨0x2000, ⟨0x10, 0x800⟩⟩, ⟨0x2008, ⟨0, 0⟩⟩, ⟨0x1000, ⟨0x1000, 0x400⟩⟩];
      let space : AddressSpace := {
        bitness := .bits32, regions := [⟨⟨0x1000, 0x2000⟩, 0x400⟩, ⟨⟨0x2000, 0x2010⟩, 0x800⟩] };
      ofLists (some ⟨ranges⟩) none = .ok space ∧ Tabulates space (MemoryList.mk ranges).described ∧
        space.bitness = .bits32 ∧ ofMemoryList ⟨ranges.reverse⟩ = .ok space) := by
  obtain ⟨-, -, hwide, hnarrow, hbitness, hchoice, hperm⟩ := accepts_exactly_disjoint_lists
  constructor
  · intro list space
    have hlist : ofMemory64List list = .ok space := by decide
    have hspace : ofLists none (some list) = .ok space := (hchoice none list).trans hlist
    refine ⟨hspace, hwide list space hlist, fun h => ?_⟩
    have hnone := ((hbitness none (some list) space hspace).mp h).1
    exact nomatch hnone
  · intro ranges space
    have hlist : ofMemoryList ⟨ranges⟩ = .ok space := rfl
    have hlow : ∀ d ∈ ranges, d.start.toNat ≤ 0xffffffff := by decide
    refine ⟨hlist, hnarrow _ space hlist, (hbitness (some _) none space hlist).mpr ⟨rfl, ?_⟩, ?_⟩
    · intro list hmem
      cases hmem
      exact hlow
    · exact (hperm ranges ranges.reverse ranges.reverse_perm.symm space).mp hlist

end AddressSpace

end Minidump
