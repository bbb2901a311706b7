import Minidump.Address.Space
import Mathlib.Data.List.Basic
import Mathlib.Data.List.TakeWhile

/-!
# Regions that share no address

The regions of an address space are kept in address order, and a new one is measured
only against its two neighbours. This file says why that is enough: in an *ordered* list
of regions each one ends before the next one starts, so whatever a look at the closest
region before a point misses, no region contains.

- `AddressRange.Meets` — two ranges reach into one another;
- `Region.Ordered` — the invariant: no region is empty, each one ends before the next
  one starts;
- `AddressSpace.region?_eq_some_iff` — the region that is looked up at the predecessor
  is the one that contains the address;
- `AddressSpace.overlapping?_eq_find?` — the two neighbours of a range decide about all
  regions: what is found is the lowest region that the range meets;
- `AddressSpace.insert_cases`, `AddressSpace.of_insert_eq_ok` — all that an insertion can
  do, and all that one can do that is accepted;
- `AddressSpace.insert_ordered` — it keeps the invariant.
-/

namespace Minidump

namespace AddressRange

/-- Each of two ranges starts before the other one ends. -/
def Meets (r s : AddressRange) : Prop :=
  r.start < s.stop ∧ s.start < r.stop

instance (r s : AddressRange) : Decidable (r.Meets s) :=
  inferInstanceAs (Decidable (_ ∧ _))

/-- Two ranges that have addresses meet iff they share one. -/
theorem meets_iff_exists_contains {r s : AddressRange} (hr : ¬ r.IsEmpty) (hs : ¬ s.IsEmpty) :
    r.Meets s ↔ ∃ address, r.Contains address ∧ s.Contains address := by
  unfold IsEmpty at hr hs
  constructor
  · rintro ⟨h₁, h₂⟩
    refine ⟨max r.start s.start, ⟨?_, ?_⟩, ⟨?_, ?_⟩⟩ <;> omega
  · rintro ⟨address, ⟨h₁, h₂⟩, ⟨h₃, h₄⟩⟩
    exact ⟨by omega, by omega⟩

/-- A range that contains an address is not empty. -/
theorem Contains.not_isEmpty {r : AddressRange} {address : Nat} (h : r.Contains address) :
    ¬ r.IsEmpty := by
  obtain ⟨h₁, h₂⟩ := h
  unfold IsEmpty
  omega

end AddressRange

/-- Regions as an address space keeps them: none is empty, and each one ends before the
next one starts. -/
structure Region.Ordered (regions : List Region) : Prop where
  occupied : ∀ r ∈ regions, ¬ r.range.IsEmpty
  apart : regions.Pairwise fun r s => r.range.stop ≤ s.range.start

namespace Region.Ordered

theorem nil : Region.Ordered [] where
  occupied := fun _ h => nomatch h
  apart := List.Pairwise.nil

/-- Any part of an ordered list is ordered. -/
theorem sublist {part regions : List Region} (h : Region.Ordered regions)
    (hpart : part.Sublist regions) : Region.Ordered part :=
  ⟨fun r hr => h.occupied r (hpart.subset hr), h.apart.sublist hpart⟩

/-- Ordered regions start one after the other. -/
theorem starts {regions : List Region} (h : Region.Ordered regions) :
    regions.Pairwise fun r s => r.range.start < s.range.start := by
  refine h.apart.imp_of_mem fun {r s} hr _ hrs => ?_
  have := h.occupied r hr
  unfold AddressRange.IsEmpty at this
  omega

end Region.Ordered

/-- Where a property does not come back once it has failed, no element behind its first
failure has it. -/
theorem not_of_mem_dropWhile {α : Type} {p : α → Bool} {l : List α}
    (h : l.Pairwise fun a b => p b = true → p a = true) :
    ∀ a ∈ l.dropWhile p, p a = false := by
  induction l with
  | nil => exact fun a ha => nomatch ha
  | cons x xs ih =>
    obtain ⟨hx, hxs⟩ := List.pairwise_cons.mp h
    rw [List.dropWhile_cons]
    by_cases hpx : p x = true
    · rw [if_pos hpx]
      exact ih hxs
    · rw [if_neg hpx]
      intro a ha
      -- were it back at `a`, it would not have failed at `x`
      rcases List.mem_cons.mp ha with rfl | ha
      · exact Bool.eq_false_iff.mpr hpx
      · exact Bool.eq_false_iff.mpr fun hpa => hpx (hx a ha hpa)

namespace AddressSpace

variable {space : AddressSpace}

/-! ## The regions before and after a point -/

theorem upTo_append_after (space : AddressSpace) (address : Nat) :
    space.upTo address ++ space.after address = space.regions :=
  List.takeWhile_append_dropWhile

theorem start_le_of_mem_upTo {address : Nat} {r : Region} (h : r ∈ space.upTo address) :
    r.range.start ≤ address := by
  simpa using List.mem_takeWhile_imp h

theorem lt_start_of_mem_after (hspace : Region.Ordered space.regions) {address : Nat}
    {r : Region} (h : r ∈ space.after address) : address < r.range.start := by
  have hdown : space.regions.Pairwise fun r s =>
      decide (s.range.start ≤ address) = true → decide (r.range.start ≤ address) = true := by
    refine hspace.starts.imp fun {r s} hrs hs => ?_
    rw [decide_eq_true_iff] at hs ⊢
    omega
  have := not_of_mem_dropWhile hdown r h
  simpa using this

/-- Of the regions up to a point, only the last one can reach beyond it. -/
theorem stop_le_of_mem_init (hspace : Region.Ordered space.regions) {address : Nat}
    {init : List Region} {last r : Region} (hinit : space.upTo address = init ++ [last])
    (hr : r ∈ init) : r.range.stop ≤ address := by
  have hordered : Region.Ordered (init ++ [last]) :=
    hinit ▸ hspace.sublist (List.takeWhile_sublist _)
  have hmem : last ∈ space.upTo address := by
    rw [hinit]
    exact List.mem_append_right _ List.mem_cons_self
  have hlast := start_le_of_mem_upTo hmem
  have := (List.pairwise_append.mp hordered.apart).2.2 r hr last List.mem_cons_self
  omega

/-! ## Looking up an address -/

/-- The region that is looked up is the one region that contains the address. -/
theorem region?_eq_some_iff (hspace : Region.Ordered space.regions) {address : Nat} {r : Region} :
    space.region? address = some r ↔ r ∈ space.regions ∧ r.range.Contains address := by
  unfold region?
  rw [Option.filter_eq_some_iff, decide_eq_true_iff]
  constructor
  · rintro ⟨hlast, hr⟩
    refine ⟨?_, hr⟩
    rw [← upTo_append_after space address]
    exact List.mem_append_left _ (List.mem_of_getLast? hlast)
  · rintro ⟨hmem, hr⟩
    refine ⟨?_, hr⟩
    have hupTo : r ∈ space.upTo address := by
      rw [← upTo_append_after space address, List.mem_append] at hmem
      refine hmem.resolve_right fun hafter => ?_
      have := lt_start_of_mem_after hspace hafter
      have := hr.1
      omega
    rcases List.eq_nil_or_concat' (space.upTo address) with hnil | ⟨init, last, hsplit⟩
    · rw [hnil] at hupTo
      exact nomatch hupTo
    · rw [hsplit, List.mem_append, List.mem_singleton] at hupTo
      rcases hupTo with hinit | rfl
      · -- were it not the last one, it would end before the address
        have := stop_le_of_mem_init hspace hsplit hinit
        have := hr.2
        omega
      · rw [hsplit, List.getLast?_concat]

/-- The regions up to a point hold one that a range from there meets iff the last of them
reaches into it. -/
theorem find?_upTo (hspace : Region.Ordered space.regions) {range : AddressRange}
    (hrange : ¬ range.IsEmpty) :
    (space.upTo range.start).find? (fun r => r.range.Meets range)
      = (space.upTo range.start).getLast?.filter fun r => range.start < r.range.stop := by
  have hstart : range.start < range.stop := by
    unfold AddressRange.IsEmpty at hrange
    omega
  rcases List.eq_nil_or_concat' (space.upTo range.start) with hnil | ⟨init, last, hsplit⟩
  · rw [hnil]
    rfl
  · have hinit : init.find? (fun r => r.range.Meets range) = none := by
      rw [List.find?_eq_none]
      intro r hr hmeets
      have := stop_le_of_mem_init hspace hsplit hr
      have := (of_decide_eq_true hmeets).2
      omega
    have hmem : last ∈ space.upTo range.start := by
      rw [hsplit]
      exact List.mem_append_right _ List.mem_cons_self
    have hlast := start_le_of_mem_upTo hmem
    rw [hsplit, List.find?_append, hinit, Option.none_or, List.getLast?_concat]
    by_cases hreach : range.start < last.range.stop
    · have hmeets : last.range.Meets range := ⟨by omega, hreach⟩
      rw [List.find?_cons_of_pos (by simpa using hmeets),
        Option.filter_some_pos (by simpa using hreach)]
    · have hmeets : ¬ last.range.Meets range := fun h => hreach h.2
      rw [List.find?_cons_of_neg (by simpa using hmeets), List.find?_nil,
        Option.filter_some_neg (by simpa using hreach)]

/-- The regions after a point hold one that a range from there meets iff the range
reaches into the first of them. -/
theorem find?_after (hspace : Region.Ordered space.regions) (range : AddressRange) :
    (space.after range.start).find? (fun r => r.range.Meets range)
      = (space.after range.start).head?.filter fun r => r.range.start < range.stop := by
  have hordered : Region.Ordered (space.after range.start) :=
    hspace.sublist (List.dropWhile_sublist _)
  have hafter : ∀ r ∈ space.after range.start, range.start < r.range.stop := by
    intro r hr
    have := lt_start_of_mem_after hspace hr
    have := hordered.occupied r hr
    unfold AddressRange.IsEmpty at this
    omega
  cases hsplit : space.after range.start with
  | nil => rfl
  | cons first rest =>
    rw [hsplit] at hordered hafter
    have hfirst := hafter first List.mem_cons_self
    by_cases hreach : first.range.start < range.stop
    · have hmeets : first.range.Meets range := ⟨hreach, hfirst⟩
      rw [List.find?_cons_of_pos (by simpa using hmeets), List.head?_cons,
        Option.filter_some_pos (by simpa using hreach)]
    · -- the others start even later
      have hrest : (first :: rest).find? (fun r => r.range.Meets range) = none := by
        rw [List.find?_eq_none]
        intro r hr hmeets
        have hlt := (of_decide_eq_true hmeets).1
        rcases List.mem_cons.mp hr with rfl | hr
        · exact hreach hlt
        · have := (List.pairwise_cons.mp hordered.starts).1 r hr
          omega
      rw [hrest, List.head?_cons, Option.filter_some_neg (by simpa using hreach)]

/-- What the two neighbours of a range show is the lowest region that the range meets. -/
theorem overlapping?_eq_find? (hspace : Region.Ordered space.regions) {range : AddressRange}
    (hrange : ¬ range.IsEmpty) :
    space.overlapping? range = space.regions.find? fun r => r.range.Meets range := by
  -- the regions are those up to the start and then those after it
  conv =>
    rhs
    rw [← upTo_append_after space range.start, List.find?_append]
  rw [find?_upTo hspace hrange, find?_after hspace range]
  unfold overlapping?
  cases (space.upTo range.start).getLast?.filter _ <;> rfl

/-! ## Adding a region -/

/-- All that an insertion can do: skip a region without addresses, refuse one because of
the lowest region that it meets, or put it in its place. -/
theorem insert_cases (hspace : Region.Ordered space.regions) (region : Region) :
    (region.range.IsEmpty ∧ space.insert region = .ok space) ∨
    (¬ region.range.IsEmpty ∧ ∃ other,
      space.regions.find? (fun r => r.range.Meets region.range) = some other ∧
      space.insert region = .error (.regionOverlap region.range other.range)) ∨
    (¬ region.range.IsEmpty ∧ (∀ r ∈ space.regions, ¬ r.range.Meets region.range) ∧
      space.insert region = .ok { space with
        regions :=
          space.upTo region.range.start ++ region :: space.after region.range.start }) := by
  unfold insert
  by_cases hempty : region.range.IsEmpty
  · exact .inl ⟨hempty, if_pos hempty⟩
  · rw [if_neg hempty, overlapping?_eq_find? hspace hempty]
    cases hfind : space.regions.find? fun r => r.range.Meets region.range with
    | some other => exact .inr (.inl ⟨hempty, other, rfl, rfl⟩)
    | none =>
      refine .inr (.inr ⟨hempty, fun r hr hmeets => ?_, rfl⟩)
      exact List.find?_eq_none.mp hfind r hr (decide_eq_true hmeets)

/-- An insertion that is accepted has skipped a region without addresses, or put one that
meets no other in its place. -/
theorem of_insert_eq_ok (hspace : Region.Ordered space.regions) {region : Region}
    {space' : AddressSpace} (h : space.insert region = .ok space') :
    (region.range.IsEmpty ∧ space' = space) ∨
    (¬ region.range.IsEmpty ∧ (∀ r ∈ space.regions, ¬ r.range.Meets region.range) ∧
      space' = { space with
        regions :=
          space.upTo region.range.start ++ region :: space.after region.range.start }) := by
  rcases insert_cases hspace region with ⟨hempty, hok⟩ | ⟨-, other, -, herr⟩ | ⟨hempty, hapart, hok⟩
  · exact .inl ⟨hempty, Except.ok.inj (h.symm.trans hok)⟩
  · cases h.symm.trans herr
  · exact .inr ⟨hempty, hapart, Except.ok.inj (h.symm.trans hok)⟩

/-- Of the regions that a range does not meet, those that start no later end before it. -/
theorem stop_le_of_mem_upTo {range : AddressRange} (hrange : ¬ range.IsEmpty)
    (hapart : ∀ r ∈ space.regions, ¬ r.range.Meets range) {r : Region}
    (hr : r ∈ space.upTo range.start) : r.range.stop ≤ range.start := by
  have hmem : r ∈ space.regions := (List.takeWhile_sublist _).subset hr
  have hle := start_le_of_mem_upTo hr
  unfold AddressRange.IsEmpty at hrange
  refine Nat.le_of_not_lt fun hreach => hapart r hmem ⟨?_, hreach⟩
  omega

/-- Of the regions that a range does not meet, those that start later start behind it. -/
theorem stop_le_of_mem_after (hspace : Region.Ordered space.regions) {range : AddressRange}
    (hapart : ∀ r ∈ space.regions, ¬ r.range.Meets range) {r : Region}
    (hr : r ∈ space.after range.start) : range.stop ≤ r.range.start := by
  have hmem : r ∈ space.regions := (List.dropWhile_sublist _).subset hr
  have hlt := lt_start_of_mem_after hspace hr
  have hoccupied := hspace.occupied r hmem
  unfold AddressRange.IsEmpty at hoccupied
  refine Nat.le_of_not_lt fun hreach => hapart r hmem ⟨hreach, ?_⟩
  omega

/-- An insertion keeps the regions ordered. -/
theorem insert_ordered (hspace : Region.Ordered space.regions) {region : Region}
    {space' : AddressSpace} (h : space.insert region = .ok space') :
    Region.Ordered space'.regions := by
  rcases of_insert_eq_ok hspace h with ⟨-, rfl⟩ | ⟨hempty, hapart, rfl⟩
  · exact hspace
  · show Region.Ordered (space.upTo region.range.start ++ region :: space.after region.range.start)
    -- the two parts stay in order, and the new region fits between them
    have hold : Region.Ordered (space.upTo region.range.start ++ space.after region.range.start) :=
      (upTo_append_after space region.range.start).symm ▸ hspace
    have hbefore : ∀ r ∈ space.upTo region.range.start, r.range.stop ≤ region.range.start :=
      fun r hr => stop_le_of_mem_upTo hempty hapart hr
    have hafter : ∀ r ∈ space.after region.range.start, region.range.stop ≤ r.range.start :=
      fun r hr => stop_le_of_mem_after hspace hapart hr
    obtain ⟨hupTo, hrest, hacross⟩ := List.pairwise_append.mp hold.apart
    constructor
    · intro r hr
      rcases List.mem_append.mp hr with hr | hr
      · exact hold.occupied r (List.mem_append_left _ hr)
      · rcases List.mem_cons.mp hr with rfl | hr
        · exact hempty
        · exact hold.occupied r (List.mem_append_right _ hr)
    · refine List.pairwise_append.mpr ⟨hupTo, List.pairwise_cons.mpr ⟨hafter, hrest⟩, ?_⟩
      intro r hr s hs
      rcases List.mem_cons.mp hs with rfl | hs
      · exact hbefore r hr
      · exact hacross r hr s hs

/-- After an insertion the regions are those from before and the new one, unless that one
is empty. -/
theorem mem_insert (hspace : Region.Ordered space.regions) {region : Region}
    {space' : AddressSpace} (h : space.insert region = .ok space') (r : Region) :
    r ∈ space'.regions ↔ r ∈ space.regions ∨ (r = region ∧ ¬ r.range.IsEmpty) := by
  rcases of_insert_eq_ok hspace h with ⟨hempty, rfl⟩ | ⟨hempty, -, rfl⟩
  · refine ⟨.inl, fun hr => hr.resolve_right ?_⟩
    rintro ⟨rfl, hoccupied⟩
    exact hoccupied hempty
  · rw [← upTo_append_after space region.range.start]
    simp only [List.mem_append, List.mem_cons]
    constructor
    · rintro (hr | rfl | hr)
      · exact .inl (.inl hr)
      · exact .inr ⟨rfl, hempty⟩
      · exact .inl (.inr hr)
    · rintro ((hr | hr) | ⟨rfl, -⟩)
      · exact .inl hr
      · exact .inr (.inr hr)
      · exact .inr (.inl rfl)

/-- A region that is accepted meets none that is there, unless it is empty. -/
theorem not_meets_of_insert (hspace : Region.Ordered space.regions) {region : Region}
    {space' : AddressSpace} (h : space.insert region = .ok space')
    (hempty : ¬ region.range.IsEmpty) : ∀ r ∈ space.regions, ¬ r.range.Meets region.range := by
  rcases of_insert_eq_ok hspace h with ⟨hskip, -⟩ | ⟨-, hapart, -⟩
  · exact absurd hskip hempty
  · exact hapart

end AddressSpace

end Minidump
