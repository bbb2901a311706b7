import Minidump.Proofs.CursorRuns
import Minidump.Proofs.Reads

/-!
# Reading on is reading more at once

A read gives what there is up to the end of its region and leaves the cursor behind that. So
it makes no difference whether some number of bytes is read at once or with several reads, one
after the other: a read that finds the region at its end gives nothing and moves nothing, and
a file that ends inside the region fails the one read iff it fails one of the many.

- `VirtualCursor.behind` — the cursor behind bytes of its region; `behind_behind` says that
  going on by some bytes and then by others is going on by both;
- `ProcessMemory.run_read_eq_ok_iff` — when a read succeeds, and with what;
- `ProcessMemory.run_read_add` — one step: a read in two parts;
- `ProcessMemory.readEach`, `ProcessMemory.run_readEach` — the run: a read in any number of
  parts;
- `ProcessMemory.read_sum_iff_readEach` — this after a seek, for every address space that
  memory lists make up.
-/

namespace Minidump

/-- The cursor behind bytes that it has read in a region. Without any, the file is not touched
either. -/
def VirtualCursor.behind (cursor : VirtualCursor) (region : Region) (bs : List UInt8) :
    VirtualCursor :=
  if bs = [] then cursor
  else { cursor with
    position := cursor.position + bs.length
    filePosition := (region.placeOf cursor.position).offset + bs.length }

theorem VirtualCursor.position_behind (cursor : VirtualCursor) (region : Region)
    (bs : List UInt8) : (cursor.behind region bs).position = cursor.position + bs.length := by
  unfold behind
  by_cases hbs : bs = []
  · rw [if_pos hbs, hbs]
    rfl
  · rw [if_neg hbs]

/-- Going on by some bytes and then by others is going on by both. -/
theorem VirtualCursor.behind_behind {cursor : VirtualCursor} {region : Region}
    (hstart : region.range.start ≤ cursor.position) (front back : List UInt8) :
    (cursor.behind region front).behind region back = cursor.behind region (front ++ back) := by
  by_cases hfront : front = []
  · subst hfront
    rfl
  · by_cases hback : back = []
    · subst hback
      rw [List.append_nil]
      rfl
    · have hboth : front ++ back ≠ [] := List.append_ne_nil_of_left_ne_nil hfront back
      unfold behind
      rw [if_neg hfront, if_neg hback, if_neg hboth, List.length_append]
      simp only [Region.placeOf_add hstart, Nat.add_assoc]

namespace ProcessMemory

/-- Reads with several lengths, one after the other. -/
def readEach (memory : ProcessMemory) (lengths : List Nat) : Access (List (List UInt8)) :=
  lengths.mapM memory.read

variable {memory : ProcessMemory} {region : Region} {cursor next : VirtualCursor}
  {described : List Region}

/-! ## One read -/

/-- A read succeeds iff the file has what it asks for up to the end of the region, and it
leaves the cursor behind that. -/
theorem run_read_eq_ok_iff (hbuilt : memory.space.BuiltFrom described)
    (hplaced : memory.PlacedIn region cursor) {length : Nat} {bs : List UInt8} :
    (memory.read length).run.run cursor = (.ok bs, next) ↔
      memory.image.readBytes (region.placeOf cursor.position).offset
          (min length (region.placeOf cursor.position).available) = .ok bs ∧
        next = cursor.behind region bs := by
  rw [hplaced.run_read hbuilt]
  by_cases hzero : min length (region.placeOf cursor.position).available = 0
  · rw [if_pos hzero, hzero, Image.readBytes_zero]
    constructor
    · intro h
      obtain ⟨hbs, rfl⟩ := Prod.mk.inj h
      cases hbs
      exact ⟨rfl, rfl⟩
    · rintro ⟨hbs, rfl⟩
      cases hbs
      rfl
  · rw [if_neg hzero]
    cases hbytes : memory.image.readBytes (region.placeOf cursor.position).offset
        (min length (region.placeOf cursor.position).available) with
    | error cause =>
      constructor
      · intro h
        cases (Prod.mk.inj h).1
      · rintro ⟨h, -⟩
        cases h
    | ok found =>
      have hlength := Image.length_of_readBytes hbytes
      have hfound : found ≠ [] := by
        rintro rfl
        exact hzero hlength.symm
      -- as some bytes were read, the cursor is moved by their number
      have hbehind : cursor.behind region found = { cursor with
          position := cursor.position + found.length
          filePosition := (region.placeOf cursor.position).offset + found.length } :=
        if_neg hfound
      rw [← hlength]
      constructor
      · intro h
        obtain ⟨hbs, rfl⟩ := Prod.mk.inj h
        cases hbs
        exact ⟨rfl, hbehind.symm⟩
      · rintro ⟨hbs, rfl⟩
        cases hbs
        rw [hbehind]

/-- A read in two parts: it succeeds iff both of them do, one after the other, and gives their
bytes and leaves the cursor where they leave it. -/
theorem run_read_add (hbuilt : memory.space.BuiltFrom described)
    (hplaced : memory.PlacedIn region cursor) {first second : Nat} {bs : List UInt8} :
    (memory.read (first + second)).run.run cursor = (.ok bs, next) ↔
      ∃ front middle back, (memory.read first).run.run cursor = (.ok front, middle) ∧
        (memory.read second).run.run middle = (.ok back, next) ∧ bs = front ++ back := by
  have hstart := hplaced.start_le
  -- how much of the second part the region has after the first part
  have hsplit : min (first + second) (region.placeOf cursor.position).available
      = min first (region.placeOf cursor.position).available
        + min second ((region.placeOf cursor.position).available
          - min first (region.placeOf cursor.position).available) := by
    omega
  -- where the second part is read if the first one was
  have hmiddle : ∀ {front : List UInt8},
      memory.image.readBytes (region.placeOf cursor.position).offset
          (min first (region.placeOf cursor.position).available) = .ok front →
        region.placeOf (cursor.behind region front).position =
          { offset := (region.placeOf cursor.position).offset
              + min first (region.placeOf cursor.position).available
            available := (region.placeOf cursor.position).available
              - min first (region.placeOf cursor.position).available } := by
    intro front hfront
    rw [VirtualCursor.position_behind, Region.placeOf_add hstart, Image.length_of_readBytes hfront]
  rw [run_read_eq_ok_iff hbuilt hplaced, hsplit, Image.readBytes_add_eq_ok_iff]
  constructor
  · rintro ⟨⟨front, back, hfront, hback, rfl⟩, rfl⟩
    have hrun := (run_read_eq_ok_iff hbuilt hplaced).mpr ⟨hfront, rfl⟩
    have hplaced' := placedIn_of_run_read hbuilt hplaced hrun
    refine ⟨front, _, back, hrun, (run_read_eq_ok_iff hbuilt hplaced').mpr ⟨?_, ?_⟩, rfl⟩
    · rw [hmiddle hfront]
      exact hback
    · exact (VirtualCursor.behind_behind hstart front back).symm
  · rintro ⟨front, middle, back, hrun, hrest, rfl⟩
    have hplaced' := placedIn_of_run_read hbuilt hplaced hrun
    obtain ⟨hfront, rfl⟩ := (run_read_eq_ok_iff hbuilt hplaced).mp hrun
    obtain ⟨hback, rfl⟩ := (run_read_eq_ok_iff hbuilt hplaced').mp hrest
    rw [hmiddle hfront] at hback
    exact ⟨⟨front, back, hfront, hback, rfl⟩, VirtualCursor.behind_behind hstart front back⟩

/-! ## Any number of reads -/

/-- Several reads from a cursor in a region, one after the other, are one read. -/
theorem run_readEach (hbuilt : memory.space.BuiltFrom described)
    (hplaced : memory.PlacedIn region cursor) (lengths : List Nat) {bs : List UInt8} :
    (memory.read lengths.sum).run.run cursor = (.ok bs, next) ↔
      ∃ parts, (memory.readEach lengths).run.run cursor = (.ok parts, next) ∧
        parts.flatten = bs := by
  -- for every cursor in the region, as the first read leaves another one for the rest
  induction lengths generalizing cursor bs with
  | nil =>
    rw [List.sum_nil, hplaced.run_read hbuilt, Nat.zero_min, if_pos rfl]
    constructor
    · intro h
      obtain ⟨hbs, rfl⟩ := Prod.mk.inj h
      cases hbs
      exact ⟨[], rfl, rfl⟩
    · rintro ⟨parts, h, rfl⟩
      obtain ⟨hparts, rfl⟩ := Prod.mk.inj h
      cases hparts
      rfl
  | cons length lengths ih =>
    have hcons : memory.readEach (length :: lengths) = (memory.read length >>= fun front =>
        memory.readEach lengths >>= fun parts => pure (front :: parts)) :=
      List.mapM_cons
    rw [List.sum_cons, run_read_add hbuilt hplaced, hcons]
    simp only [run_bind_eq_ok_iff]
    constructor
    · rintro ⟨front, middle, back, hfront, hback, rfl⟩
      have hplaced' := placedIn_of_run_read hbuilt hplaced hfront
      obtain ⟨parts, hparts, rfl⟩ := (ih hplaced').mp hback
      exact ⟨front :: parts, ⟨front, middle, hfront, parts, next, hparts, rfl⟩, rfl⟩
    · rintro ⟨_, ⟨front, middle, hfront, parts, last, hparts, hlast⟩, rfl⟩
      obtain ⟨hall, rfl⟩ := Prod.mk.inj hlast
      cases hall
      have hplaced' := placedIn_of_run_read hbuilt hplaced hfront
      exact ⟨front, middle, parts.flatten, hfront, (ih hplaced').mpr ⟨parts, hparts, rfl⟩, rfl⟩

/-- **Splitting a read changes nothing.** In an address space that memory lists make up, over
any file: after a seek from any cursor, one read of the sum of some lengths succeeds iff the
reads of each of them, one after the other, all succeed. It then gives their bytes, one after
the other, and leaves the same cursor behind. -/
theorem read_sum_iff_readEach {memoryList : Option MemoryList}
    {memory64List : Option Memory64List} {space : AddressSpace}
    (hspace : AddressSpace.ofLists memoryList memory64List = .ok space) (image : Image)
    (address : Nat) (lengths : List Nat) (cursor next : VirtualCursor) (bs : List UInt8) :
    let memory : ProcessMemory := { space, image }
    (do memory.seek address; memory.read lengths.sum : Access _).run.run cursor
        = (.ok bs, next) ↔
      ∃ parts, (do memory.seek address; memory.readEach lengths : Access _).run.run cursor
          = (.ok parts, next) ∧ parts.flatten = bs := by
  intro memory
  obtain ⟨described, hbuilt⟩ := AddressSpace.exists_builtFrom_of_ofLists hspace
  simp only [run_bind_eq_ok_iff]
  constructor
  · rintro ⟨_, placed, hseek, hread⟩
    obtain ⟨region, hplaced⟩ := exists_placedIn_of_seek hbuilt hseek
    obtain ⟨parts, hparts, hflatten⟩ := (run_readEach hbuilt hplaced lengths).mp hread
    exact ⟨parts, ⟨(), placed, hseek, hparts⟩, hflatten⟩
  · rintro ⟨parts, ⟨_, placed, hseek, hparts⟩, hflatten⟩
    obtain ⟨region, hplaced⟩ := exists_placedIn_of_seek hbuilt hseek
    have hread := (run_readEach hbuilt hplaced lengths).mpr ⟨parts, hparts, hflatten⟩
    exact ⟨(), placed, hseek, hread⟩

/-- The end of a region inside the third of four reads, with another region right behind it, and
a file that ends inside the first region. -/
theorem read_sum_iff_readEach_clamped :
    let space : AddressSpace := {
      bitness := .bits32
      regions := [⟨⟨0x1000, 0x1006⟩, 0⟩, ⟨⟨0x1006, 0x100a⟩, 6⟩]
    }
    let memory : ProcessMemory := { space, image := ⟨⟨#[1, 2, 3, 4, 5, 6, 7, 8, 9, 10]⟩⟩ }
    let shorter : ProcessMemory := { space, image := ⟨⟨#[1, 2, 3, 4]⟩⟩ }
    AddressSpace.ofLists (some ⟨[⟨0x1006, ⟨4, 6⟩⟩, ⟨0x1000, ⟨6, 0⟩⟩]⟩) none = .ok space ∧
      (∃ parts, (do memory.seek 0x1001; memory.readEach [2, 0, 9, 1] : Access _).run.run
          (VirtualCursor.fresh 3)
            = (.ok parts, ⟨0x1006, some ⟨⟨0x1000, 0x1006⟩, 0⟩, 6⟩) ∧
        parts.flatten = [2, 3, 4, 5, 6]) ∧
      ∀ parts next, (do shorter.seek 0x1001; shorter.readEach [2, 0, 9, 1] : Access _).run.run
        (VirtualCursor.fresh 3) ≠ (.ok parts, next) := by
  intro space memory shorter
  have hspace : AddressSpace.ofLists (some ⟨[⟨0x1006, ⟨4, 6⟩⟩, ⟨0x1000, ⟨6, 0⟩⟩]⟩) none
      = .ok space := by
    decide
  have hread : (do memory.seek 0x1001; memory.read [2, 0, 9, 1].sum : Access _).run.run
      (VirtualCursor.fresh 3)
        = (.ok [2, 3, 4, 5, 6], ⟨0x1006, some ⟨⟨0x1000, 0x1006⟩, 0⟩, 6⟩) :=
    Prod.ext (by decide +kernel) (by decide +kernel)
  have hshort : ((do shorter.seek 0x1001; shorter.read [2, 0, 9, 1].sum : Access _).run.run
      (VirtualCursor.fresh 3)).1 = .error (.truncated 1 5) := by
    decide +kernel
  refine ⟨hspace, (read_sum_iff_readEach hspace _ _ _ _ _ _).mp hread, fun parts next h => ?_⟩
  have hsum := (read_sum_iff_readEach hspace _ _ _ _ _ _).mpr ⟨parts, h, rfl⟩
  rw [congrArg Prod.fst hsum] at hshort
  cases hshort

end ProcessMemory

end Minidump
