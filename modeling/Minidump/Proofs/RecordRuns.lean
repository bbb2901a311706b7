import Minidump.Proofs.RecordReads

/-!
# Runs of peeks and reads

A record is looked at or read where the position is, and the next step goes on from where that has
left the position. Looking at a record leaves it in place and reading it moves behind it, as long as
the record is there. A record that is not there is missed at the position, but the position is not
put back: the rest of the file has been used up, so that nothing can be read any more, however small
it is. The position after a run is therefore the start and the sizes of the records that were read
only if no step has failed.

- `RecordStep`, `RecordStep.result`, `RecordStep.after` — a step, what it gives, and the position
  that it leaves behind;
- `RecordStep.afterAll` — the position after a run;
- `RecordStep.Moves` — what a step gives, and where it leaves the position;
- `RecordStep.SucceedFrom`, `RecordStep.EndsAt` — runs without a failure, and runs by their first
  failure;
- `RecordStep.moves`, `RecordStep.endsAt_afterAll` — every step, and every run;
- `RecordStep.runs_to_first_failure` — the two together;
- `RecordStep.failures_use_up_file` — a file that would do for a smaller record.
-/

namespace Minidump

namespace Scan

variable {α : Type} (image : Image) (layout : Layout α) (position : Nat)

/-- Looking at a record leaves it in place, but a record that is missing uses up the file. -/
theorem run_peek_eq : (peek image layout).run.run position
    = (image.read layout position,
        if (image.read layout position).isOk then position else image.size) := by
  unfold Image.read
  rw [run_peek]
  cases image.window? position layout.size <;> rfl

/-- Reading a record moves behind it, and a record that is missing uses up the file. -/
theorem run_next_eq : (next image layout).run.run position
    = (image.read layout position,
        if (image.read layout position).isOk then position + layout.size else image.size) := by
  unfold Image.read
  rw [run_next]
  cases image.window? position layout.size <;> rfl

end Scan

/-- A step of a run: a record is looked at, or it is read. -/
inductive RecordStep where
  | peek (kind : RecordKind)
  | next (kind : RecordKind)

namespace RecordStep

/-- The kind of record that a step asks for. -/
def kind : RecordStep → RecordKind
  | peek kind | next kind => kind

/-- How far a step moves the position if it succeeds. -/
def advance : RecordStep → Nat
  | peek _ => 0
  | next kind => kind.format.size

/-- The step as a scan. -/
def scan (image : Image) : (step : RecordStep) → Scan step.kind.format.Value
  | peek kind => Scan.peek image kind.format.layout
  | next kind => Scan.next image kind.format.layout

/-- What a step gives from a position on. -/
def result (image : Image) (position : Nat) (step : RecordStep) :
    Result step.kind.format.Value :=
  (step.scan image).runFrom position

/-- The position that a step leaves behind, whether it succeeds or fails. -/
def after (image : Image) (position : Nat) (step : RecordStep) : Nat :=
  ((step.scan image).run.run position).2

/-- The position after a run of steps, each from where the one before it has left it. -/
def afterAll (image : Image) (start : Nat) (steps : List RecordStep) : Nat :=
  steps.foldl (after image) start

/-- How far steps move the position if they all succeed. -/
def advanceAll (steps : List RecordStep) : Nat :=
  (steps.map advance).sum

variable {image : Image} {start position : Nat} {step : RecordStep} {steps : List RecordStep}

@[simp] theorem afterAll_nil : afterAll image start [] = start :=
  rfl

@[simp] theorem afterAll_cons :
    afterAll image start (step :: steps) = afterAll image (step.after image start) steps :=
  rfl

@[simp] theorem advanceAll_nil : advanceAll [] = 0 :=
  rfl

@[simp] theorem advanceAll_cons : advanceAll (step :: steps) = step.advance + advanceAll steps := by
  simp [advanceAll]

/-! ## One step -/

/-- A step gives the record that lies at the position, or says that it is missing there. If it
succeeds, the position is moved behind a record that is read and stays before one that is looked
at; if it fails, the file has been used up. -/
structure Moves (image : Image) (position : Nat) (step : RecordStep) : Prop where
  reads : step.kind.format.ReadExactly image position (step.result image position)
  after_of_ok : ∀ a, step.result image position = .ok a →
    step.after image position = position + step.advance
  after_of_error : ∀ cause, step.result image position = .error cause →
    step.after image position = image.size

theorem result_eq : step.result image position = image.read step.kind.format.layout position := by
  cases step with
  | peek kind => exact congrArg Prod.fst (Scan.run_peek_eq image kind.format.layout position)
  | next kind => exact congrArg Prod.fst (Scan.run_next_eq image kind.format.layout position)

theorem after_eq : step.after image position
    = if (step.result image position).isOk then position + step.advance else image.size := by
  rw [result_eq]
  cases step with
  | peek kind => exact congrArg Prod.snd (Scan.run_peek_eq image kind.format.layout position)
  | next kind =>
    have hrun := Scan.run_next_eq image kind.format.layout position
    rw [kind.format.size_layout] at hrun
    exact congrArg Prod.snd hrun

theorem moves (image : Image) (position : Nat) (step : RecordStep) : step.Moves image position where
  reads := by
    rw [result_eq]
    exact step.kind.format.readExactly image position
  after_of_ok a ha := by
    rw [after_eq, ha]
    rfl
  after_of_error cause hcause := by
    rw [after_eq, hcause]
    rfl

/-- Every record has a byte. -/
theorem size_pos (kind : RecordKind) : 0 < kind.format.size := by
  cases kind <;> decide

/-- Nothing can be read at the end of the file, and the position stays there. -/
theorem result_at_end : step.result image image.size
    = .error (.truncated image.size step.kind.format.size) := by
  rw [(step.moves image image.size).reads.eq_error_iff]
  exact ⟨Nat.lt_add_of_pos_right (size_pos step.kind), rfl⟩

theorem afterAll_at_end : afterAll image image.size steps = image.size := by
  induction steps with
  | nil => rfl
  | cons step steps ih =>
    rw [afterAll_cons, (step.moves image image.size).after_of_error _ result_at_end, ih]

/-! ## Runs -/

/-- Every step succeeds, each where the ones before it have moved the position to. -/
def SucceedFrom (image : Image) (start : Nat) (steps : List RecordStep) : Prop :=
  ∀ before step later, steps = before ++ step :: later →
    ∃ a, step.result image (start + advanceAll before) = .ok a

/-- How a run of steps ends. Either all succeed, and the position is the start and the sizes of
the records that were read. Or some step is the first that fails: its record is missing at the
position that the steps before it lead to, the file has been used up from then on, and all later
steps find nothing at its end. -/
inductive EndsAt (image : Image) (start : Nat) (steps : List RecordStep) (final : Nat) : Prop where
  | complete (succeed : SucceedFrom image start steps) (eq : final = start + advanceAll steps)
  | failed (before : List RecordStep) (step : RecordStep) (later : List RecordStep)
      (split : steps = before ++ step :: later)
      (succeed : SucceedFrom image start before)
      (fails : step.result image (start + advanceAll before)
        = .error (.truncated (start + advanceAll before) step.kind.format.size))
      (later_fail : ∀ front next rest, later = front ++ next :: rest →
        next.result image (afterAll image start (before ++ step :: front))
          = .error (.truncated image.size next.kind.format.size))
      (eq : final = image.size)

theorem succeedFrom_nil : SucceedFrom image start [] := by
  intro before step later hsteps
  simp at hsteps

theorem SucceedFrom.cons {a : step.kind.format.Value} (ha : step.result image start = .ok a)
    (h : SucceedFrom image (start + step.advance) steps) :
    SucceedFrom image start (step :: steps) := by
  intro before later rest hsteps
  cases before with
  | nil =>
    cases hsteps
    exact ⟨a, ha⟩
  | cons first before =>
    cases hsteps
    rw [advanceAll_cons, ← Nat.add_assoc]
    exact h before later rest rfl

/-- The step after a failure, and every further one, is at the end of the file. -/
theorem endsAt_of_error {cause : Error} (h : step.result image start = .error cause) :
    EndsAt image start (step :: steps) image.size := by
  have hmoves := step.moves image start
  refine .failed [] step steps rfl succeedFrom_nil ?_ ?_ rfl
  · obtain ⟨-, rfl⟩ := (hmoves.reads.eq_error_iff cause).mp h
    exact h
  · intro front next rest _
    rw [List.nil_append, afterAll_cons, hmoves.after_of_error cause h, afterAll_at_end]
    exact result_at_end

/-- A step that succeeds goes before the run from where it has moved the position to. -/
theorem EndsAt.cons {a : step.kind.format.Value} {final : Nat}
    (ha : step.result image start = .ok a)
    (h : EndsAt image (start + step.advance) steps final) :
    EndsAt image start (step :: steps) final := by
  have hafter := (step.moves image start).after_of_ok a ha
  cases h with
  | complete hsucceed hfinal =>
    refine .complete (hsucceed.cons ha) ?_
    rw [hfinal, advanceAll_cons, Nat.add_assoc]
  | failed before missing later hsteps hsucceed hfails hlater hfinal =>
    refine .failed (step :: before) missing later (congrArg (step :: ·) hsteps)
      (hsucceed.cons ha) ?_ ?_ hfinal
    · rw [advanceAll_cons, ← Nat.add_assoc]
      exact hfails
    · intro front next rest hrest
      rw [List.cons_append, afterAll_cons, hafter]
      exact hlater front next rest hrest

theorem endsAt_afterAll (image : Image) (start : Nat) (steps : List RecordStep) :
    EndsAt image start steps (afterAll image start steps) := by
  induction steps generalizing start with
  | nil => exact .complete succeedFrom_nil rfl
  | cons step steps ih =>
    have hmoves := step.moves image start
    rw [afterAll_cons]
    cases hresult : step.result image start with
    | ok a =>
      rw [hmoves.after_of_ok a hresult]
      exact (ih (start + step.advance)).cons hresult
    | error cause =>
      rw [hmoves.after_of_error cause hresult, afterAll_at_end]
      exact endsAt_of_error hresult

/-- Each step of a run gives the record at the position that the steps before it have left, or
says that it is missing there. The position is the start and the sizes of the records that were
read up to the first failure, and the end of the file from then on. -/
theorem runs_to_first_failure (image : Image) (start : Nat) (steps : List RecordStep) :
    (∀ before step later, steps = before ++ step :: later →
        step.Moves image (afterAll image start before)) ∧
      EndsAt image start steps (afterAll image start steps) :=
  ⟨fun before step _ _ => step.moves image (afterAll image start before),
    endsAt_afterAll image start steps⟩

/-- Two bytes are too short for a record of four. Whether it is looked at or read, the position is
not left where it was, and the record of two bytes that lies there is not found any more. -/
theorem failures_use_up_file :
    let image : Image := ⟨⟨#[0x01, 0x02]⟩⟩
    (peek .u16).result image 0 = .ok (0x0201 : UInt16) ∧
      ∀ step ∈ [peek .u32, next .u32],
        step.result image 0 = .error (.truncated 0 4) ∧ step.after image 0 ≠ 0 ∧
          (peek .u16).result image (step.after image 0) = .error (.truncated 2 2) := by
  refine ⟨rfl, fun step hstep => ?_⟩
  obtain rfl | rfl : step = peek .u32 ∨ step = next .u32 := by simpa using hstep
  · exact ⟨rfl, by decide, rfl⟩
  · exact ⟨rfl, by decide, rfl⟩

end RecordStep

end Minidump
