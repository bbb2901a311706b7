import Minidump.Proofs.CursorRuns
import Minidump.Proofs.EnvironmentPrefix
import Minidump.Proofs.Reads
import Minidump.Process.Environment

/-!
# What a cursor computes stays small

A cursor subtracts addresses from one another and adds their distance to an offset, and the
process structures are found by any number of such steps. Each step is guarded, or needs no
guard, because of what was checked when the regions were made and when the cursor was placed.
Carried from step to step, it says that no subtraction goes below zero, no sum needs more than 64
bits, and the two guards that are there find nothing.

- `Quantity.IsOfCursor` — the two guarded numbers;
- `ProcessMemory.InPlace` — the invariant: a cursor is in a region, or no seek has placed it;
- `ProcessMemory.SafeFrom`, `ProcessMemory.Safe` — an access keeps the invariant and runs into
  neither guard, from one cursor or from every one;
- `ProcessMemory.Safe.bind`, `ProcessMemory.safe_get_bind` — accesses made of safe ones;
- `ProcessMemory.safe_seek`, `ProcessMemory.safe_read` to `ProcessMemory.safe_walk` — all that
  memory is read with;
- `MemoryCall`, `ProcessMemory.inPlace_afterAll` — any run of calls;
- `ProcessMemory.StaysInRange` — what the invariant says of the numbers of a cursor.
-/

namespace Minidump

/-- The numbers that are computed from where a cursor is. -/
def Quantity.IsOfCursor (quantity : Quantity) : Prop :=
  quantity = .regionOffset ∨ quantity = .environmentSize

theorem Quantity.IsOfCursor.ne_fieldAddress {quantity : Quantity} (h : quantity.IsOfCursor) :
    Quantity.fieldAddress ≠ quantity := by
  rcases h with rfl | rfl <;> decide

theorem EnvironmentBlock.decode_ne_overflow (block : List UInt8) (quantity : Quantity) :
    EnvironmentBlock.decode block ≠ .error (.overflow quantity) := by
  refine mapM_ne_error (fun entry h => ?_) _
  cases (variableOfUnits_eq_error_iff.mp h).1

theorem fieldAddress_ne_overflow {quantity : Quantity} (h : quantity.IsOfCursor)
    (base offset : Nat) : fieldAddress base offset ≠ .error (.overflow quantity) := by
  unfold fieldAddress
  cases checkedAdd? base offset with
  | some address => exact nofun
  | none =>
    intro hcause
    exact h.ne_fieldAddress (Error.overflow.inj (Except.error.inj hcause))

namespace ProcessMemory

/-- The cursor is in a region or at its end, or else no seek has placed it yet. -/
def InPlace (memory : ProcessMemory) (cursor : VirtualCursor) : Prop :=
  (cursor.region = none ∧ cursor.position = 0) ∨ ∃ region, memory.PlacedIn region cursor

/-- An access leaves the cursor in place, and it does not fail for a number that is computed
from where the cursor is. -/
structure SafeFrom {α : Type} (memory : ProcessMemory) (access : Access α)
    (cursor : VirtualCursor) : Prop where
  inPlace : memory.InPlace (access.run.run cursor).2
  ne_overflow : ∀ quantity : Quantity, quantity.IsOfCursor →
    (access.run.run cursor).1 ≠ .error (.overflow quantity)

/-- An access is safe from every cursor that is in place. -/
def Safe {α : Type} (memory : ProcessMemory) (access : Access α) : Prop :=
  ∀ cursor, memory.InPlace cursor → memory.SafeFrom access cursor

variable {α β : Type} {memory : ProcessMemory} {cursor : VirtualCursor}

theorem inPlace_fresh (memory : ProcessMemory) (filePosition : Nat) :
    memory.InPlace (VirtualCursor.fresh filePosition) :=
  .inl ⟨rfl, rfl⟩

/-! ## Accesses made of safe ones -/

/-- A computation without a cursor is safe if it does not fail for such a number. -/
theorem safe_lift {result : Result α}
    (h : ∀ quantity : Quantity, quantity.IsOfCursor → result ≠ .error (.overflow quantity)) :
    memory.Safe (liftM result : Access α) := by
  intro cursor hcursor
  cases result with
  | ok a => exact ⟨hcursor, fun _ _ => nofun⟩
  | error cause => exact ⟨hcursor, h⟩

theorem safe_throw {cause : Error}
    (h : ∀ quantity : Quantity, quantity.IsOfCursor → cause ≠ .overflow quantity) :
    memory.Safe (throw cause : Access α) :=
  fun _ hcursor => ⟨hcursor, fun quantity hquantity hcause =>
    h quantity hquantity (Except.error.inj hcause)⟩

theorem safe_pure (a : α) : memory.Safe (pure a : Access α) :=
  fun _ hcursor => ⟨hcursor, fun _ _ => nofun⟩

/-- What follows a safe access starts from a cursor that is in place. -/
theorem SafeFrom.bind {access : Access α} {f : α → Access β}
    (h : memory.SafeFrom access cursor) (hf : ∀ a, memory.Safe (f a)) :
    memory.SafeFrom (access >>= f) cursor := by
  obtain ⟨hplace, hne⟩ := h
  rcases hrun : access.run.run cursor with ⟨cause | a, next⟩
  · have hbind : (access >>= f).run.run cursor = (.error cause, next) := by
      rw [run_bind, hrun]
    rw [hrun] at hplace hne
    exact ⟨hbind ▸ hplace, fun quantity hquantity hcause =>
      hne quantity hquantity (congrArg Except.error (Except.error.inj (hbind ▸ hcause)))⟩
  · have hbind : (access >>= f).run.run cursor = (f a).run.run next := by
      rw [run_bind, hrun]
    rw [hrun] at hplace
    obtain ⟨hplace', hne'⟩ := hf a next hplace
    exact ⟨hbind ▸ hplace', hbind ▸ hne'⟩

theorem Safe.bind {access : Access α} {f : α → Access β} (h : memory.Safe access)
    (hf : ∀ a, memory.Safe (f a)) : memory.Safe (access >>= f) :=
  fun cursor hcursor => (h cursor hcursor).bind hf

theorem Safe.map {access : Access α} (h : memory.Safe access) (f : α → β) :
    memory.Safe (f <$> access) := by
  rw [map_eq_pure_bind]
  exact h.bind fun a => safe_pure (f a)

/-- An access that looks at the cursor first knows that it is in place. -/
theorem safe_get_bind {f : VirtualCursor → Access α}
    (hf : ∀ cursor, memory.InPlace cursor → memory.SafeFrom (f cursor) cursor) :
    memory.Safe (get >>= f) := by
  intro cursor hcursor
  obtain ⟨hplace, hne⟩ := hf cursor hcursor
  exact ⟨hplace, hne⟩

theorem Safe.ite {condition : Prop} [Decidable condition] {yes no : Access α}
    (hyes : memory.Safe yes) (hno : memory.Safe no) :
    memory.Safe (if condition then yes else no) := by
  by_cases h : condition
  · rw [if_pos h]
    exact hyes
  · rw [if_neg h]
    exact hno

/-! ## All that memory is read with -/

section BuiltFrom

variable {described : List Region} (hbuilt : memory.space.BuiltFrom described)

include hbuilt

theorem safe_seek (address : Nat) : memory.Safe (memory.seek address) := by
  intro cursor hcursor
  cases hregion : memory.space.region? address with
  | none =>
    have hrun : (memory.seek address).run.run cursor = (.error (.unmapped address), cursor) := by
      rw [run_seek, hregion]
    exact ⟨hrun ▸ hcursor, fun _ _ => hrun ▸ nofun⟩
  | some region =>
    have hrun : ((memory.seek address).run.run cursor).1 = .ok () := by
      rw [run_seek, hregion]
    exact ⟨.inr ⟨region, placedIn_of_region? hbuilt hregion⟩, fun _ _ => hrun ▸ nofun⟩

theorem safe_read (length : Nat) : memory.Safe (memory.read length) := by
  rintro cursor (⟨hregion, hposition⟩ | ⟨region, hplaced⟩)
  · have hrun := run_read_of_region_none memory hregion length
    exact ⟨hrun ▸ .inl ⟨hregion, hposition⟩, fun _ _ => hrun ▸ nofun⟩
  · refine ⟨.inr ⟨region, placedIn_read hbuilt hplaced length⟩, fun quantity _ => ?_⟩
    -- the sum of offset and distance is there, so only the file can make it fail
    rw [hplaced.run_read hbuilt]
    by_cases hzero : min length (region.placeOf cursor.position).available = 0
    · rw [if_pos hzero]
      exact nofun
    · rw [if_neg hzero]
      cases hbytes : memory.image.readBytes (region.placeOf cursor.position).offset
          (min length (region.placeOf cursor.position).available) with
      | ok bs => exact nofun
      | error cause =>
        intro hcause
        exact Image.readBytes_ne_overflow _ _ _ (hbytes.trans hcause)

theorem safe_readExact (length : Nat) : memory.Safe (memory.readExact length) := by
  refine safe_get_bind fun cursor hcursor => (safe_read hbuilt length cursor hcursor).bind ?_
  intro bs
  exact (safe_pure bs).ite (safe_throw fun _ _ => nofun)

theorem safe_readByte : memory.Safe memory.readByte :=
  (safe_readExact hbuilt _).bind fun _ => safe_pure _

theorem safe_readUInt16 : memory.Safe memory.readUInt16 :=
  (safe_readExact hbuilt _).bind fun _ => safe_pure _

theorem safe_readPointer : memory.Safe memory.readPointer :=
  (safe_readExact hbuilt _).bind fun _ => safe_pure _

theorem safe_readPointerAt (address : Nat) : memory.Safe (memory.readPointerAt address) :=
  (safe_seek hbuilt address).bind fun _ => safe_readPointer hbuilt

theorem safe_readPointerField (base offset : Nat) :
    memory.Safe (memory.readPointerField base offset) := by
  refine (safe_lift fun _ hquantity => fieldAddress_ne_overflow hquantity base offset).bind ?_
  intro address
  exact safe_readPointerAt hbuilt address

theorem safe_readCountedString (offsets : FieldOffsets) (address : Nat) :
    memory.Safe (memory.readCountedString offsets address) := by
  refine (safe_seek hbuilt address).bind fun _ => ?_
  refine (safe_readUInt16 hbuilt).bind fun length => (safe_pure "").ite ?_
  refine (safe_readPointerField hbuilt address offsets.stringBuffer).bind fun buffer => ?_
  refine (safe_seek hbuilt buffer).bind fun _ => ?_
  refine (safe_readExact hbuilt length.toNat).bind fun bs => ?_
  exact safe_lift fun quantity _ => Utf16.decode_ne_overflow bs quantity

theorem safe_readStringField (offsets : FieldOffsets) (base offset : Nat) :
    memory.Safe (memory.readStringField offsets base offset) := by
  refine (safe_lift fun _ hquantity => fieldAddress_ne_overflow hquantity base offset).bind ?_
  intro address
  exact safe_readCountedString hbuilt offsets address

/-- No cursor in place has 2⁶⁴ bytes before it, as its region ends below 2⁶⁴. -/
theorem remaining_lt (hcursor : memory.InPlace cursor) : cursor.remaining < addressLimit := by
  rcases hcursor with ⟨hregion, -⟩ | ⟨region, hplaced⟩
  · have hremaining : cursor.remaining = 0 := by
      unfold VirtualCursor.remaining VirtualCursor.regionEnd
      rw [hregion]
      exact Nat.sub_self _
    rw [hremaining]
    decide
  · have hstop := hbuilt.stop_lt region ((hbuilt.mem_iff region).mp hplaced.mem).1
    unfold VirtualCursor.remaining
    rw [hplaced.regionEnd_eq]
    omega

theorem safe_readEnvironmentBlock (address : Nat) :
    memory.Safe (memory.readEnvironmentBlock address) := by
  refine (safe_seek hbuilt address).bind fun _ => safe_get_bind fun cursor hcursor => ?_
  -- the guard finds nothing, wherever the cursor is
  rw [if_neg (Nat.not_le.mpr (remaining_lt hbuilt hcursor))]
  refine (safe_read hbuilt cursor.remaining cursor hcursor).bind fun block => ?_
  exact safe_lift fun quantity _ => EnvironmentBlock.decode_ne_overflow block quantity

theorem safe_walk (teb : Nat) : memory.Safe (memory.walk teb) := by
  have hpointer := safe_readPointerField hbuilt
  have hstring := safe_readStringField hbuilt (FieldOffsets.of memory.space.bitness)
  refine (hpointer _ _).bind fun peb => ?_
  refine (safe_lift fun _ hquantity => fieldAddress_ne_overflow hquantity _ _).bind fun flag => ?_
  refine (safe_seek hbuilt flag).bind fun _ => ?_
  refine (safe_readByte hbuilt).bind fun debugged => ?_
  refine (hpointer _ _).bind fun base => ?_
  refine (hpointer _ _).bind fun parameters => ?_
  refine (hstring _ _).bind fun imagePath => ?_
  refine (hstring _ _).bind fun commandLine => ?_
  refine (hstring _ _).bind fun windowTitle => ?_
  refine (hstring _ _).bind fun dllPath => ?_
  refine (hstring _ _).bind fun currentDirectory => ?_
  refine (hpointer _ _).bind fun standardInput => ?_
  refine (hpointer _ _).bind fun standardOutput => ?_
  refine (hpointer _ _).bind fun standardError => ?_
  refine (hpointer _ _).bind fun environment => ?_
  exact (safe_readEnvironmentBlock hbuilt environment).bind fun found => safe_pure _

end BuiltFrom

end ProcessMemory

/-! ## Any run of calls -/

/-- A call as an access, whatever it reads. -/
def CursorCall.run (memory : ProcessMemory) : CursorCall → Access Unit
  | seek address => memory.seek address
  | read length => (fun _ => ()) <$> memory.read length
  | readExact length => (fun _ => ()) <$> memory.readExact length
  | readByte => (fun _ => ()) <$> memory.readByte
  | readUInt16 => (fun _ => ()) <$> memory.readUInt16
  | readPointer => (fun _ => ()) <$> memory.readPointer
  | readPointerAt address => (fun _ => ()) <$> memory.readPointerAt address

/-- A call on a cursor, or one of those by which process structures are read. -/
inductive MemoryCall where
  | cursor (call : CursorCall)
  | pointerField (base offset : Nat)
  | countedString (offsets : FieldOffsets) (address : Nat)
  | environmentBlock (address : Nat)
  | walk (teb : Nat)

/-- A call as an access, whatever it reads. -/
def MemoryCall.run (memory : ProcessMemory) : MemoryCall → Access Unit
  | cursor call => call.run memory
  | pointerField base offset => (fun _ => ()) <$> memory.readPointerField base offset
  | countedString offsets address => (fun _ => ()) <$> memory.readCountedString offsets address
  | environmentBlock address => (fun _ => ()) <$> memory.readEnvironmentBlock address
  | walk teb => (fun _ => ()) <$> memory.walk teb

/-- The cursor after a run of calls, each on the cursor that the one before it has left, whether
it has succeeded or not. -/
def VirtualCursor.afterAll (memory : ProcessMemory) (calls : List MemoryCall)
    (cursor : VirtualCursor) : VirtualCursor :=
  calls.foldl (fun cursor call => ((call.run memory).run.run cursor).2) cursor

namespace ProcessMemory

/-- The numbers of a cursor: its position is before the end of its region, which is below 2⁶⁴;
it is behind the start of its region, and its offset in the file, even with all bytes up to the
end of the region, is below 2⁶⁴; and no further call fails for such a number. -/
structure StaysInRange (memory : ProcessMemory) (cursor : VirtualCursor) : Prop where
  position_le : cursor.position ≤ cursor.regionEnd
  regionEnd_lt : cursor.regionEnd < addressLimit
  offset_lt : ∀ region, cursor.region = some region →
    region.range.start ≤ cursor.position ∧
      region.offset + (cursor.position - region.range.start) + cursor.remaining < addressLimit
  call_ne_overflow : ∀ (call : MemoryCall) (quantity : Quantity), quantity.IsOfCursor →
    ((call.run memory).run.run cursor).1 ≠ .error (.overflow quantity)

section BuiltFrom

variable {memory : ProcessMemory} {cursor : VirtualCursor} {described : List Region}
  (hbuilt : memory.space.BuiltFrom described)

include hbuilt

theorem safe_cursorCall (call : CursorCall) : memory.Safe (call.run memory) := by
  cases call with
  | seek address => exact safe_seek hbuilt address
  | read length => exact (safe_read hbuilt length).map _
  | readExact length => exact (safe_readExact hbuilt length).map _
  | readByte => exact (safe_readByte hbuilt).map _
  | readUInt16 => exact (safe_readUInt16 hbuilt).map _
  | readPointer => exact (safe_readPointer hbuilt).map _
  | readPointerAt address => exact (safe_readPointerAt hbuilt address).map _

/-- One call, whichever it is. -/
theorem safe_run (call : MemoryCall) : memory.Safe (call.run memory) := by
  cases call with
  | cursor call => exact safe_cursorCall hbuilt call
  | pointerField base offset => exact (safe_readPointerField hbuilt base offset).map _
  | countedString offsets address => exact (safe_readCountedString hbuilt offsets address).map _
  | environmentBlock address => exact (safe_readEnvironmentBlock hbuilt address).map _
  | walk teb => exact (safe_walk hbuilt teb).map _

/-- Any run of calls keeps the cursor in place, also where calls of it fail. -/
theorem inPlace_afterAll (calls : List MemoryCall) (hcursor : memory.InPlace cursor) :
    memory.InPlace (cursor.afterAll memory calls) := by
  induction calls generalizing cursor with
  | nil => exact hcursor
  | cons call calls ih => exact ih (safe_run hbuilt call cursor hcursor).inPlace

/-- What the invariant says of the numbers of a cursor. -/
theorem staysInRange_of_inPlace (hcursor : memory.InPlace cursor) :
    memory.StaysInRange cursor := by
  have hcalls : ∀ (call : MemoryCall) (quantity : Quantity), quantity.IsOfCursor →
      ((call.run memory).run.run cursor).1 ≠ .error (.overflow quantity) :=
    fun call => (safe_run hbuilt call cursor hcursor).ne_overflow
  rcases hcursor with ⟨hregion, hposition⟩ | ⟨region, hplaced⟩
  · have hend : cursor.regionEnd = 0 := by
      unfold VirtualCursor.regionEnd
      rw [hregion, hposition]
    refine ⟨by omega, ?_, fun region hsome => ?_, hcalls⟩
    · rw [hend]
      decide
    · rw [hregion] at hsome
      cases hsome
  · have hmem := ((hbuilt.mem_iff region).mp hplaced.mem).1
    have hstart := hplaced.start_le
    have hstop := hplaced.le_stop
    have hend := hplaced.regionEnd_eq
    refine ⟨hend ▸ hstop, hend ▸ hbuilt.stop_lt region hmem, fun other hother => ?_, hcalls⟩
    obtain rfl : region = other := Option.some.inj (hplaced.region_eq.symm.trans hother)
    have hoffset : region.offset + (region.range.stop - region.range.start) < addressLimit :=
      hbuilt.offset_lt region hmem
    refine ⟨hstart, ?_⟩
    unfold VirtualCursor.remaining
    rw [hend]
    omega

/-- After any run of calls on a new cursor, its numbers stay in range. -/
theorem staysInRange_afterAll (filePosition : Nat) (calls : List MemoryCall) :
    memory.StaysInRange ((VirtualCursor.fresh filePosition).afterAll memory calls) :=
  staysInRange_of_inPlace hbuilt (inPlace_afterAll hbuilt calls (inPlace_fresh memory filePosition))

end BuiltFrom

end ProcessMemory

end Minidump
