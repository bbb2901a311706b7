import Minidump.Proofs.Memory

/-!
# Where a cursor can be

A cursor is moved by seeks and by reads, in any order and also when some of them fail. What
keeps it safe is that it always knows its region: a read goes no further than to the end of
the region, and only a seek that succeeds puts the cursor into another one. So the cursor
may stand right behind the last address of its region, where another region can start, but
it does not enter that one by reading on.

- `CursorCall`, `CursorCall.next` — a call on a cursor, and the cursor that it leaves behind;
- `VirtualCursor.after` — the cursor after a run of calls;
- `ProcessMemory.PlacedIn` — a cursor in a region of the address space, or at its end;
- `ProcessMemory.NeverPlaced` — a cursor that no seek has placed, with which nothing can be
  read;
- `ProcessMemory.ExactOutcome`, `ProcessMemory.MovesAsRead` — how far single calls move a
  cursor;
- `ProcessMemory.exists_placedIn_next`, `ProcessMemory.exists_placedIn_after` — a call, and so
  a run of calls, leaves a cursor that is in a region in one;
- `ProcessMemory.neverPlaced_or_placedIn_after` — where a new cursor is after any run.
-/

namespace Minidump

/-- A call on a cursor. -/
inductive CursorCall where
  | seek (address : Nat)
  | read (length : Nat)
  | readExact (length : Nat)
  | readByte
  | readUInt16
  | readPointer
  | readPointerAt (address : Nat)

namespace CursorCall

/-- The address that a call seeks, if it does. -/
def target? : CursorCall → Option Nat
  | seek address | readPointerAt address => some address
  | _ => none

/-- The cursor that a call leaves behind, whether it succeeds or fails. -/
def next (memory : ProcessMemory) (cursor : VirtualCursor) : CursorCall → VirtualCursor
  | seek address => ((memory.seek address).run.run cursor).2
  | read length => ((memory.read length).run.run cursor).2
  | readExact length => ((memory.readExact length).run.run cursor).2
  | readByte => (memory.readByte.run.run cursor).2
  | readUInt16 => (memory.readUInt16.run.run cursor).2
  | readPointer => (memory.readPointer.run.run cursor).2
  | readPointerAt address => ((memory.readPointerAt address).run.run cursor).2

end CursorCall

/-- The cursor after a run of calls, each on the cursor that the one before it has left. -/
def VirtualCursor.after (memory : ProcessMemory) (calls : List CursorCall)
    (cursor : VirtualCursor) : VirtualCursor :=
  calls.foldl (CursorCall.next memory) cursor

namespace ProcessMemory

/-- The cursor is in a region of the address space, or right behind its last address. -/
structure PlacedIn (memory : ProcessMemory) (region : Region) (cursor : VirtualCursor) :
    Prop where
  mem : region ∈ memory.space.regions
  region_eq : cursor.region = some region
  start_le : region.range.start ≤ cursor.position
  le_stop : cursor.position ≤ region.range.stop

/-- None of the calls so far was a seek that succeeds. The cursor has no region, and all
calls that need one fail. -/
structure NeverPlaced (memory : ProcessMemory) (calls : List CursorCall)
    (cursor : VirtualCursor) : Prop where
  seek : ∀ call ∈ calls, ∀ address, call.target? = some address →
    ∀ other, ((memory.seek address).run.run other).1 = .error (.unmapped address)
  region_eq : cursor.region = none
  position_eq : cursor.position = 0
  regionEnd_eq : cursor.regionEnd = 0
  read : ∀ length, ((memory.read length).run.run cursor).1 = .error (.unmapped 0)
  readExact : ∀ length, ((memory.readExact length).run.run cursor).1 = .error (.unmapped 0)
  readByte : (memory.readByte.run.run cursor).1 = .error (.unmapped 0)
  readUInt16 : (memory.readUInt16.run.run cursor).1 = .error (.unmapped 0)
  readPointer : (memory.readPointer.run.run cursor).1 = .error (.unmapped 0)

/-- What becomes of a read of exactly `length` bytes, and where it leaves the cursor. -/
inductive ExactOutcome (memory : ProcessMemory) (cursor : VirtualCursor) (length : Nat) :
    Result (List UInt8) → VirtualCursor → Prop where
  /-- All bytes are there, and the cursor is behind them. -/
  | whole {bs : List UInt8} {next : VirtualCursor} (hlength : bs.length = length)
    (hposition : next.position = cursor.position + length) (hregion : next.region = cursor.region) :
    ExactOutcome memory cursor length (.ok bs) next
  /-- The region ends before, and the cursor is at its end. -/
  | short {region : Region} {next : VirtualCursor} (hregion : cursor.region = some region)
    (hend : region.range.stop - cursor.position < length)
    (hposition : next.position = region.range.stop) (hkept : next.region = some region) :
    ExactOutcome memory cursor length
      (.error (.shortRead cursor.position length (region.range.stop - cursor.position))) next
  /-- The bytes cannot be read at all, and the cursor is where it was. -/
  | failed {cause : Error} {next : VirtualCursor}
    (hread : ((memory.read length).run.run cursor).1 = .error cause)
    (hposition : next.position = cursor.position) (hregion : next.region = cursor.region) :
    ExactOutcome memory cursor length (.error cause) next

/-- A failed seek and a failed read do not move the cursor, and a read moves it by as many
bytes as it gives. A read of an exact number of bytes fails and still moves it if the region
does not have as many. -/
structure MovesAsRead (memory : ProcessMemory) (cursor : VirtualCursor) : Prop where
  seek_error : ∀ address cause next,
    (memory.seek address).run.run cursor = (.error cause, next) →
      next.position = cursor.position ∧ next.region = cursor.region
  read_error : ∀ length cause next,
    (memory.read length).run.run cursor = (.error cause, next) →
      next.position = cursor.position ∧ next.region = cursor.region
  read_ok : ∀ length bs next,
    (memory.read length).run.run cursor = (.ok bs, next) →
      next.position = cursor.position + bs.length ∧ next.region = cursor.region
  readExact : ∀ length, ExactOutcome memory cursor length
    ((memory.readExact length).run.run cursor).1 ((memory.readExact length).run.run cursor).2

variable {memory : ProcessMemory} {region : Region} {cursor : VirtualCursor}

theorem PlacedIn.regionEnd_eq (h : memory.PlacedIn region cursor) :
    cursor.regionEnd = region.range.stop := by
  unfold VirtualCursor.regionEnd
  rw [h.region_eq]

/-! ## Reads that are made of a read -/

/-- What is computed from a result does not move the cursor. -/
theorem snd_run_bind_pure {σ α β : Type} (step : ExceptT Error (StateM σ) α) (f : α → β)
    (state : σ) : ((step >>= fun a => pure (f a)).run.run state).2 = (step.run.run state).2 := by
  rw [run_bind]
  rcases step.run.run state with ⟨_ | a, next⟩ <;> rfl

/-- A failure is the result, whatever would have been computed. -/
theorem fst_run_bind_of_error {σ α β : Type} {step : ExceptT Error (StateM σ) α} {state : σ}
    {cause : Error} (h : (step.run.run state).1 = .error cause)
    (f : α → ExceptT Error (StateM σ) β) : ((step >>= f).run.run state).1 = .error cause := by
  rw [run_bind]
  rcases hrun : step.run.run state with ⟨found | a, next⟩
  · rw [hrun] at h
    exact congrArg Except.error (Except.error.inj h)
  · rw [hrun] at h
    cases h

theorem run_readExact (memory : ProcessMemory) (length : Nat) (cursor : VirtualCursor) :
    (memory.readExact length).run.run cursor =
      match (memory.read length).run.run cursor with
      | (.ok bs, next) =>
        (if bs.length = length then .ok bs
          else .error (.shortRead cursor.position length bs.length), next)
      | (.error cause, next) => (.error cause, next) := by
  show (memory.read length >>= fun bs => if bs.length = length then pure bs
    else throw (.shortRead cursor.position length bs.length) : Access _).run.run cursor = _
  rw [run_bind]
  rcases (memory.read length).run.run cursor with ⟨cause | bs, next⟩
  · rfl
  · show (if bs.length = length then pure bs
      else throw (.shortRead cursor.position length bs.length) : Access _).run.run next = _
    by_cases hlength : bs.length = length
    · rw [if_pos hlength]
      show _ = (if bs.length = length then _ else _, next)
      rw [if_pos hlength]
      rfl
    · rw [if_neg hlength]
      show _ = (if bs.length = length then _ else _, next)
      rw [if_neg hlength]
      rfl

/-- Whether the bytes are enough is noticed only when they have been read. -/
theorem snd_run_readExact (memory : ProcessMemory) (length : Nat) (cursor : VirtualCursor) :
    ((memory.readExact length).run.run cursor).2 = ((memory.read length).run.run cursor).2 := by
  rw [run_readExact]
  rcases (memory.read length).run.run cursor with ⟨cause | bs, next⟩ <;> rfl

theorem snd_run_readPointer (memory : ProcessMemory) (cursor : VirtualCursor) :
    (memory.readPointer.run.run cursor).2
      = ((memory.read memory.space.bitness.pointerSize).run.run cursor).2 :=
  (snd_run_bind_pure _ _ cursor).trans (snd_run_readExact memory _ cursor)

/-! ## What a read can do -/

/-- Without a region nothing is read and nothing is moved. -/
theorem run_read_of_region_none (memory : ProcessMemory) (hregion : cursor.region = none)
    (length : Nat) :
    (memory.read length).run.run cursor = (.error (.unmapped cursor.position), cursor) := by
  obtain ⟨position, found, filePosition⟩ := cursor
  obtain rfl : found = none := hregion
  rfl

/-- All that a read can do from a cursor in a region: give nothing at its end, give what there
is up to its end, or fail in the file. -/
theorem PlacedIn.run_read {described : List Region} (hplaced : memory.PlacedIn region cursor)
    (hbuilt : memory.space.BuiltFrom described) (length : Nat) :
    (memory.read length).run.run cursor =
      if min length (region.placeOf cursor.position).available = 0 then (.ok [], cursor)
      else
        match memory.image.readBytes (region.placeOf cursor.position).offset
            (min length (region.placeOf cursor.position).available) with
        | .ok bs =>
          (.ok bs, { cursor with
            position := cursor.position + min length (region.placeOf cursor.position).available
            filePosition := (region.placeOf cursor.position).offset
              + min length (region.placeOf cursor.position).available })
        | .error cause =>
          (.error cause, { cursor with
            filePosition := max (region.placeOf cursor.position).offset memory.image.size }) := by
  have hdescribed := ((hbuilt.mem_iff region).mp hplaced.mem).1
  have hoffset := hbuilt.checkedAdd?_offset hdescribed hplaced.le_stop
  have hregion := hplaced.region_eq
  obtain ⟨position, found, filePosition⟩ := cursor
  obtain rfl : found = some region := hregion
  exact ProcessMemory.run_read hoffset length filePosition

/-- In a region, a read gives what there is up to its end and moves the cursor behind that,
or it fails in the file and does not move the cursor. -/
theorem run_read_of_placedIn {described : List Region} (hbuilt : memory.space.BuiltFrom described)
    (hplaced : memory.PlacedIn region cursor) (length : Nat) :
    (∃ bs next, (memory.read length).run.run cursor = (.ok bs, next) ∧
      bs.length = min length (region.range.stop - cursor.position) ∧
      next.position = cursor.position + bs.length ∧ next.region = some region) ∨
    ∃ cause next, (memory.read length).run.run cursor = (.error cause, next) ∧
      next.position = cursor.position ∧ next.region = some region := by
  have hregion := hplaced.region_eq
  rw [hplaced.run_read hbuilt]
  by_cases hzero : min length (region.placeOf cursor.position).available = 0
  · rw [if_pos hzero]
    exact .inl ⟨[], cursor, rfl, hzero.symm, rfl, hregion⟩
  · rw [if_neg hzero]
    cases hbytes : memory.image.readBytes (region.placeOf cursor.position).offset
        (min length (region.placeOf cursor.position).available) with
    | error cause => exact .inr ⟨cause, _, rfl, rfl, hregion⟩
    | ok bs =>
      have hlength := Image.length_of_readBytes hbytes
      exact .inl ⟨bs, _, rfl, hlength, congrArg (cursor.position + ·) hlength.symm, hregion⟩

/-! ## One call -/

theorem placedIn_of_region? {described : List Region} (hbuilt : memory.space.BuiltFrom described)
    {address : Nat} (hregion : memory.space.region? address = some region) :
    memory.PlacedIn region ((memory.seek address).run.run cursor).2 := by
  obtain ⟨hmem, hcontains⟩ := (AddressSpace.region?_eq_some_iff hbuilt.ordered).mp hregion
  rw [run_seek, hregion]
  exact {
    mem := hmem
    region_eq := rfl
    start_le := hcontains.1
    le_stop := Nat.le_of_lt hcontains.2
  }

/-- A seek that succeeds has placed the cursor. -/
theorem exists_placedIn_of_seek {described : List Region}
    (hbuilt : memory.space.BuiltFrom described) {address : Nat} {placed : VirtualCursor}
    (hseek : (memory.seek address).run.run cursor = (.ok (), placed)) :
    ∃ region, memory.PlacedIn region placed := by
  cases hregion : memory.space.region? address with
  | none =>
    rw [run_seek, hregion] at hseek
    cases (Prod.mk.inj hseek).1
  | some region =>
    have hplaced : memory.PlacedIn region ((memory.seek address).run.run cursor).2 :=
      placedIn_of_region? hbuilt hregion
    rw [hseek] at hplaced
    exact ⟨region, hplaced⟩

theorem placedIn_read {described : List Region} (hbuilt : memory.space.BuiltFrom described)
    (hplaced : memory.PlacedIn region cursor) (length : Nat) :
    memory.PlacedIn region ((memory.read length).run.run cursor).2 := by
  have hstart := hplaced.start_le
  have hstop := hplaced.le_stop
  rcases run_read_of_placedIn hbuilt hplaced length with
    ⟨bs, next, hrun, hlength, hposition, hregion⟩ | ⟨cause, next, hrun, hposition, hregion⟩
  · rw [hrun]
    exact {
      mem := hplaced.mem
      region_eq := hregion
      start_le := by
        show region.range.start ≤ next.position
        omega
      le_stop := by
        show next.position ≤ region.range.stop
        omega
    }
  · rw [hrun]
    exact {
      mem := hplaced.mem
      region_eq := hregion
      start_le := hposition ▸ hstart
      le_stop := hposition ▸ hstop
    }

theorem placedIn_of_run_read {described : List Region} (hbuilt : memory.space.BuiltFrom described)
    (hplaced : memory.PlacedIn region cursor) {length : Nat} {result : Result (List UInt8)}
    {next : VirtualCursor} (hrun : (memory.read length).run.run cursor = (result, next)) :
    memory.PlacedIn region next := by
  have hkept := placedIn_read hbuilt hplaced length
  rwa [hrun] at hkept

/-- A seek that fails leaves the cursor as it is. -/
theorem snd_run_seek_of_unmapped {address : Nat}
    (hregion : memory.space.region? address = none) :
    ((memory.seek address).run.run cursor).2 = cursor := by
  rw [run_seek, hregion]

/-- A pointer is read where the seek has put the cursor, and not at all if that fails. -/
theorem snd_run_readPointerAt (memory : ProcessMemory) (address : Nat) (cursor : VirtualCursor) :
    ((memory.readPointerAt address).run.run cursor).2 =
      if (memory.space.region? address).isSome then
        (memory.readPointer.run.run ((memory.seek address).run.run cursor).2).2
      else cursor := by
  show ((memory.seek address >>= fun _ => memory.readPointer).run.run cursor).2 = _
  rw [run_bind, run_seek]
  cases memory.space.region? address <;> rfl

/-- A call that seeks an address in a region leaves the cursor there, whatever it was. -/
theorem exists_placedIn_of_target {described : List Region}
    (hbuilt : memory.space.BuiltFrom described) {call : CursorCall} {address : Nat}
    (htarget : call.target? = some address)
    (hregion : memory.space.region? address = some region) :
    memory.PlacedIn region (call.next memory cursor) := by
  cases call
  case seek =>
    cases htarget
    exact placedIn_of_region? hbuilt hregion
  case readPointerAt =>
    cases htarget
    show memory.PlacedIn region ((memory.readPointerAt address).run.run cursor).2
    rw [snd_run_readPointerAt, if_pos (hregion ▸ rfl), snd_run_readPointer]
    exact placedIn_read hbuilt (placedIn_of_region? hbuilt hregion) _
  all_goals cases htarget

/-- What a call does that seeks nothing, or nothing that is there: it reads some number of
bytes, or it does nothing. -/
theorem exists_next_eq_read {call : CursorCall}
    (hcall : ∀ address, call.target? = some address → memory.space.region? address = none)
    (cursor : VirtualCursor) :
    call.next memory cursor = cursor ∨
      ∃ length, call.next memory cursor = ((memory.read length).run.run cursor).2 := by
  cases call
  case seek address => exact .inl (snd_run_seek_of_unmapped (hcall address rfl))
  case read length => exact .inr ⟨length, rfl⟩
  case readExact length => exact .inr ⟨length, snd_run_readExact memory length cursor⟩
  case readByte =>
    exact .inr ⟨_, (snd_run_bind_pure _ _ cursor).trans (snd_run_readExact memory _ cursor)⟩
  case readUInt16 =>
    exact .inr ⟨_, (snd_run_bind_pure _ _ cursor).trans (snd_run_readExact memory _ cursor)⟩
  case readPointer => exact .inr ⟨_, snd_run_readPointer memory cursor⟩
  case readPointerAt address =>
    refine .inl ?_
    show ((memory.readPointerAt address).run.run cursor).2 = cursor
    rw [snd_run_readPointerAt, hcall address rfl]
    rfl

/-- A call leaves a cursor in a region in a region: in the one that it seeks, or else in the
same one. -/
theorem exists_placedIn_next {described : List Region} (hbuilt : memory.space.BuiltFrom described)
    (hplaced : memory.PlacedIn region cursor) (call : CursorCall) :
    ∃ region, memory.PlacedIn region (call.next memory cursor) := by
  by_cases hcall : ∀ address, call.target? = some address → memory.space.region? address = none
  · rcases exists_next_eq_read hcall cursor with hnext | ⟨length, hnext⟩
    · refine ⟨region, ?_⟩
      rw [hnext]
      exact hplaced
    · refine ⟨region, ?_⟩
      rw [hnext]
      exact placedIn_read hbuilt hplaced length
  · simp only [not_forall] at hcall
    obtain ⟨address, htarget, hsome⟩ := hcall
    obtain ⟨other, hother⟩ := Option.ne_none_iff_exists'.mp hsome
    exact ⟨other, exists_placedIn_of_target hbuilt htarget hother⟩

/-! ## Runs of calls -/

/-- A run of calls never leaves the regions again. -/
theorem exists_placedIn_after {described : List Region} (hbuilt : memory.space.BuiltFrom described)
    (hplaced : memory.PlacedIn region cursor) (calls : List CursorCall) :
    ∃ region, memory.PlacedIn region (cursor.after memory calls) := by
  induction calls generalizing region cursor with
  | nil => exact ⟨region, hplaced⟩
  | cons call calls ih =>
    obtain ⟨other, hother⟩ := exists_placedIn_next hbuilt hplaced call
    exact ih hother

/-- A run of calls on a cursor without a region: a seek places it, or nothing happens to
it. -/
theorem after_of_region_none {described : List Region}
    (hbuilt : memory.space.BuiltFrom described) (hregion : cursor.region = none)
    (calls : List CursorCall) :
    (cursor.after memory calls = cursor ∧ ∀ call ∈ calls, ∀ address,
      call.target? = some address → memory.space.region? address = none) ∨
    ∃ region, memory.PlacedIn region (cursor.after memory calls) := by
  induction calls with
  | nil => exact .inl ⟨rfl, fun _ hcall => (nomatch hcall)⟩
  | cons call calls ih =>
    by_cases hcall : ∀ address, call.target? = some address →
        memory.space.region? address = none
    · have hnext : call.next memory cursor = cursor := by
        rcases exists_next_eq_read hcall cursor with hnext | ⟨length, hnext⟩
        · exact hnext
        · rw [hnext, run_read_of_region_none memory hregion]
      show (VirtualCursor.after memory calls (call.next memory cursor) = cursor ∧ _) ∨
        ∃ region, memory.PlacedIn region
          (VirtualCursor.after memory calls (call.next memory cursor))
      rw [hnext, List.forall_mem_cons]
      exact ih.imp_left fun ⟨hafter, hcalls⟩ => ⟨hafter, hcall, hcalls⟩
    · simp only [not_forall] at hcall
      obtain ⟨address, htarget, hsome⟩ := hcall
      obtain ⟨region, hregion⟩ := Option.ne_none_iff_exists'.mp hsome
      exact .inr (exists_placedIn_after hbuilt
        (exists_placedIn_of_target hbuilt htarget hregion) calls)

/-! ## How far a call moves the cursor -/

theorem seek_error_of_run {address : Nat} {cause : Error} {next : VirtualCursor}
    (h : (memory.seek address).run.run cursor = (.error cause, next)) : next = cursor := by
  rw [run_seek] at h
  cases hregion : memory.space.region? address with
  | none =>
    rw [hregion] at h
    exact (Prod.mk.inj h).2.symm
  | some region =>
    rw [hregion] at h
    cases (Prod.mk.inj h).1

theorem movesAsRead_of_region_none (hregion : cursor.region = none) :
    memory.MovesAsRead cursor where
  seek_error address cause next h := by
    rw [seek_error_of_run h]
    exact ⟨rfl, rfl⟩
  read_error length cause next h := by
    rw [run_read_of_region_none memory hregion] at h
    rw [← (Prod.mk.inj h).2]
    exact ⟨rfl, rfl⟩
  read_ok length bs next h := by
    rw [run_read_of_region_none memory hregion] at h
    cases (Prod.mk.inj h).1
  readExact length := by
    have hrun := run_read_of_region_none memory hregion length
    rw [run_readExact, hrun]
    exact .failed (congrArg Prod.fst hrun) rfl rfl

theorem movesAsRead_of_placedIn {described : List Region}
    (hbuilt : memory.space.BuiltFrom described) (hplaced : memory.PlacedIn region cursor) :
    memory.MovesAsRead cursor where
  seek_error address cause next h := by
    rw [seek_error_of_run h]
    exact ⟨rfl, rfl⟩
  read_error length cause next h := by
    rcases run_read_of_placedIn hbuilt hplaced length with
      ⟨_, _, hrun, -⟩ | ⟨_, _, hrun, hposition, hregion⟩
    · cases (Prod.mk.inj (hrun.symm.trans h)).1
    · rw [← (Prod.mk.inj (hrun.symm.trans h)).2]
      exact ⟨hposition, hregion.trans hplaced.region_eq.symm⟩
  read_ok length bs next h := by
    rcases run_read_of_placedIn hbuilt hplaced length with
      ⟨_, _, hrun, -, hposition, hregion⟩ | ⟨_, _, hrun, -⟩
    · obtain ⟨hbs, rfl⟩ := Prod.mk.inj (hrun.symm.trans h)
      rw [← Except.ok.inj hbs]
      exact ⟨hposition, hregion.trans hplaced.region_eq.symm⟩
    · cases (Prod.mk.inj (hrun.symm.trans h)).1
  readExact length := by
    have hstop := hplaced.le_stop
    rw [run_readExact]
    rcases run_read_of_placedIn hbuilt hplaced length with
      ⟨bs, next, hrun, hlength, hposition, hregion⟩ | ⟨cause, next, hrun, hposition, hregion⟩
    · rw [hrun]
      show ExactOutcome memory cursor length (if bs.length = length then _ else _) next
      -- the bytes are fewer than asked for iff the region ends before
      by_cases henough : bs.length = length
      · rw [if_pos henough]
        exact .whole henough (henough ▸ hposition) (hregion.trans hplaced.region_eq.symm)
      · have hshort : bs.length = region.range.stop - cursor.position := by omega
        rw [if_neg henough, hshort]
        exact .short hplaced.region_eq (by omega) (by omega) hregion
    · rw [hrun]
      exact .failed (congrArg Prod.fst hrun) hposition (hregion.trans hplaced.region_eq.symm)

/-- **A cursor never leaves its region by reading.** After any run of calls on a new cursor
over an address space that memory lists make up, either no seek has succeeded, and nothing
can be read, or the cursor is between start and end of a region of the address space. In both
cases a call that fails does not move the cursor, but for a read of exactly as many bytes as
the region does not have, and one that succeeds moves it by the bytes that were read. -/
theorem neverPlaced_or_placedIn_after {memoryList : Option MemoryList}
    {memory64List : Option Memory64List} {space : AddressSpace}
    (hspace : AddressSpace.ofLists memoryList memory64List = .ok space) (image : Image)
    (filePosition : Nat) (calls : List CursorCall) :
    let memory : ProcessMemory := { space, image }
    let cursor := (VirtualCursor.fresh filePosition).after memory calls
    (memory.NeverPlaced calls cursor ∨
      ∃ region, memory.PlacedIn region cursor ∧ cursor.regionEnd = region.range.stop) ∧
    memory.MovesAsRead cursor := by
  intro memory cursor
  obtain ⟨described, hbuilt⟩ := AddressSpace.exists_builtFrom_of_ofLists hspace
  have hplace : (cursor = VirtualCursor.fresh filePosition ∧ ∀ call ∈ calls, ∀ address,
      call.target? = some address → memory.space.region? address = none) ∨
      ∃ region, memory.PlacedIn region cursor :=
    after_of_region_none hbuilt rfl calls
  rcases hplace with ⟨hcursor, hcalls⟩ | ⟨region, hplaced⟩
  · have hread : ∀ length, ((memory.read length).run.run cursor).1 = .error (.unmapped 0) := by
      intro length
      rw [hcursor]
      rfl
    have hexact : ∀ length, ((memory.readExact length).run.run cursor).1
        = .error (.unmapped 0) := by
      intro length
      rw [hcursor]
      rfl
    refine ⟨.inl ?_, movesAsRead_of_region_none (hcursor ▸ rfl)⟩
    exact {
      seek := fun call hcall address htarget other => by
        rw [run_seek, hcalls call hcall address htarget]
      region_eq := hcursor ▸ rfl
      position_eq := hcursor ▸ rfl
      regionEnd_eq := hcursor ▸ rfl
      read := hread
      readExact := hexact
      readByte := fst_run_bind_of_error (hexact _) _
      readUInt16 := fst_run_bind_of_error (hexact _) _
      readPointer := fst_run_bind_of_error (hexact _) _
    }
  · exact ⟨.inr ⟨region, hplaced, hplaced.regionEnd_eq⟩, movesAsRead_of_placedIn hbuilt hplaced⟩

/-- Two regions that lie side by side: a read that wants too much parks the cursor at the end
of the first one, where the second one starts, and reading on gives nothing from there. -/
theorem neverPlaced_or_placedIn_after_adjacent :
    let space : AddressSpace := {
      bitness := .bits32
      regions := [⟨⟨0x1000, 0x1006⟩, 0⟩, ⟨⟨0x1006, 0x100a⟩, 6⟩]
    }
    let memory : ProcessMemory := { space, image := ⟨⟨#[1, 2, 3, 4, 5, 6, 7, 8, 9, 10]⟩⟩ }
    let calls : List CursorCall :=
      [.readByte, .seek 0x20, .readPointerAt 0x1000, .readExact 4, .seek 0x100a, .read 1]
    let cursor := (VirtualCursor.fresh 3).after memory calls
    AddressSpace.ofLists (some ⟨[⟨0x1006, ⟨4, 6⟩⟩, ⟨0x1000, ⟨6, 0⟩⟩]⟩) none = .ok space ∧
      cursor = { position := 0x1006, region := some ⟨⟨0x1000, 0x1006⟩, 0⟩, filePosition := 6 } ∧
      (memory.NeverPlaced calls cursor ∨
        ∃ region, memory.PlacedIn region cursor ∧ cursor.regionEnd = region.range.stop) ∧
      memory.MovesAsRead cursor := by
  intro space memory calls cursor
  have hspace : AddressSpace.ofLists (some ⟨[⟨0x1006, ⟨4, 6⟩⟩, ⟨0x1000, ⟨6, 0⟩⟩]⟩) none
      = .ok space := by
    decide
  have hcursor : cursor
      = { position := 0x1006, region := some ⟨⟨0x1000, 0x1006⟩, 0⟩, filePosition := 6 } := by
    decide +kernel
  exact ⟨hspace, hcursor, neverPlaced_or_placedIn_after hspace _ 3 calls⟩

end ProcessMemory

end Minidump
