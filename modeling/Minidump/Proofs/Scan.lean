import Minidump.Proofs.Gives
import Minidump.Stream.Entries

/-!
# Scans that do not care where they start

The position of a scan is shared with everything that was read before. Reads at an offset
move it before they look at anything, so they give what the file holds there, from every
position; only the reads that start at the position itself (`peek`, `next`, `nextMany`)
do not.

- `gives_recordAt`, `gives_bytesAt` — the two reads at an offset;
- `runFrom_eq_of_gives` — what they give is what they come to when they are run;
- `gives_attempt`, `gives_entries` — failures that are handed over, and entries that each
  lie at an offset of their own.
-/

namespace Minidump

namespace Scan

variable {α β : Type}

/-! ## Single reads -/

theorem run_peek (image : Image) (layout : Layout α) (position : Nat) :
    (peek image layout).run.run position =
      match image.window? position layout.size with
      | some bs => (.ok (layout.decode bs), position)
      | none => (.error (.truncated position layout.size), image.size) := by
  show (match image.window? position layout.size with
    | some bs => pure (layout.decode bs)
    | none => _ : Scan α).run.run position = _
  cases image.window? position layout.size <;> rfl

theorem run_next (image : Image) (layout : Layout α) (position : Nat) :
    (next image layout).run.run position =
      match image.window? position layout.size with
      | some bs => (.ok (layout.decode bs), position + layout.size)
      | none => (.error (.truncated position layout.size), image.size) := by
  unfold next
  rw [run_bind, run_peek]
  cases image.window? position layout.size <;> rfl

/-- A read at an offset is the read of the next record from there. -/
theorem run_recordAt (image : Image) (layout : Layout α) (offset position : Nat) :
    (recordAt image layout offset).run.run position = (next image layout).run.run offset :=
  rfl

theorem gives_recordAt (image : Image) (layout : Layout α) (offset : Nat) :
    Gives (recordAt image layout offset) (image.read layout offset) := by
  intro position
  unfold Image.read
  rw [run_recordAt, run_next]
  cases image.window? offset layout.size <;> rfl

theorem gives_bytesAt (image : Image) (offset length : Nat) :
    Gives (bytesAt image offset length) (image.readBytes offset length) := by
  intro position
  unfold bytesAt
  cases image.readBytes offset length <;> rfl

/-- A failure that is handed over as a result does not end what follows. -/
theorem gives_attempt {scan : Scan α} {result : Result α} (hscan : Gives scan result) :
    Gives scan.attempt (.ok result) :=
  fun position => congrArg Except.ok (hscan position)

theorem runFrom_eq_of_gives {scan : Scan α} {result : Result α} (h : Gives scan result)
    (position : Nat) : scan.runFrom position = result :=
  h position

/-! ## Entries -/

theorem gives_entriesOnto {entryAt : Nat → Scan α} {entry : Nat → Result α}
    (hentry : ∀ offset, Gives (entryAt offset) (entry offset)) (stride : Nat) :
    ∀ (count offset : Nat) (reversed : List α),
      Gives (entriesOnto entryAt stride reversed count offset)
        ((reversed.reverse ++ ·) <$>
          (List.range count).mapM fun index => entry (offset + index * stride))
  | 0, offset, reversed => by
    intro position
    show Except.ok reversed.reverse = Except.ok (reversed.reverse ++ [])
    rw [List.append_nil]
  | count + 1, offset, reversed => by
    have hstep := (hentry offset).bind fun a =>
      gives_entriesOnto hentry stride count (offset + stride) (a :: reversed)
    -- entry `index + 1` from here on is entry `index` from the next offset on
    have hshift : ∀ index, offset + (index + 1) * stride = offset + stride + index * stride := by
      intro index
      rw [Nat.succ_mul]
      omega
    intro position
    refine (hstep position).trans ?_
    rw [List.range_succ_eq_map, List.mapM_cons, List.mapM_map]
    simp [Function.comp_def, hshift]

/-- Entries that lie `stride` bytes apart are decoded each at its own offset. -/
theorem gives_entries {entryAt : Nat → Scan α} {entry : Nat → Result α}
    (hentry : ∀ offset, Gives (entryAt offset) (entry offset)) (stride count offset : Nat) :
    Gives (entries entryAt stride count offset)
      ((List.range count).mapM fun index => entry (offset + index * stride)) := by
  have h := gives_entriesOnto hentry stride count offset []
  simpa [entries] using h

end Scan

end Minidump
