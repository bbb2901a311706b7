import Minidump.Error
import Mathlib.Data.List.Forall2

/-!
# Results that do not depend on a state

Scans share a position in the file, and accesses to memory share a cursor. Both are
computations with a state that can fail, and what a step finds there depends on all that
was done before it, also on steps that failed half-way. `Gives step result` says that
none of this can be seen: from *every* state the step has the same result. What is put
together from such steps is such a step again, and its result is put together in the same
way from theirs, so that a whole run can be replaced by a computation without any state.

- `bind_eq_ok_iff`, `bind_eq_error_iff`, `map_eq_ok_iff`, `mapM_eq_ok_iff`,
  `mapM_range_eq_ok_iff`, `mapM_bind_eq_ok_iff`, `mapM_ok_eq_ok_iff`, `refused_eq_ok_iff`,
  `exists_mapM_iff`, `getElem?_of_mapM` — when a result without a state is there;
- `mapM_eq_error_iff` — of several results, the first one that fails is the cause;
- `bind_ne_error`, `mapM_ne_error`, `refused_ne_error` — a cause that no part fails with;
- `foldlM_eq_error_iff`, `exists_step_of_foldlM` — a run through a list by its steps, each from
  what the ones before it came to;
- `mapM_range_of_getElem?`, `mapM_congr_of_mem` — results that are the same for each place, or
  for each member, be they failures;
- `Gives` — the property;
- `run_bind`, `run_bind_eq_ok_iff`, `exists_of_run_bind`, `fst_run_bind` — one step after the
  other, from one state;
- `Gives.bind`, `Gives.map`, `gives_mapM` — what is put together from steps that give
  their results.
-/

namespace Minidump

variable {σ α β : Type}

/-! ## Results -/

theorem bind_eq_ok_iff {result : Result α} {f : α → Result β} {b : β} :
    (result >>= f) = .ok b ↔ ∃ a, result = .ok a ∧ f a = .ok b := by
  constructor
  · intro h
    cases result with
    | error cause => cases h
    | ok a => exact ⟨a, rfl, h⟩
  · rintro ⟨a, rfl, h⟩
    exact h

theorem bind_eq_error_iff {result : Result α} {f : α → Result β} {cause : Error} :
    (result >>= f) = .error cause ↔
      result = .error cause ∨ ∃ a, result = .ok a ∧ f a = .error cause := by
  cases result with
  | error found =>
    constructor
    · intro h
      exact .inl (congrArg Except.error (Except.error.inj h))
    · rintro (h | ⟨a, h, -⟩)
      · exact congrArg Except.error (Except.error.inj h)
      · cases h
  | ok a =>
    constructor
    · intro h
      exact .inr ⟨a, rfl, h⟩
    · rintro (h | ⟨_, h, hf⟩)
      · cases h
      · cases h
        exact hf

theorem map_eq_ok_iff {result : Result α} {f : α → β} {b : β} :
    f <$> result = .ok b ↔ ∃ a, result = .ok a ∧ f a = b := by
  constructor
  · intro h
    cases result with
    | error cause => cases h
    | ok a => exact ⟨a, rfl, Except.ok.inj h⟩
  · rintro ⟨a, rfl, rfl⟩
    rfl

/-- Results that are there one and all: each is the result for what stands in its
place. -/
theorem getElem?_of_mapM {f : α → Result β} {as : List α} {bs : List β}
    (h : as.mapM f = .ok bs) :
    bs.length = as.length ∧
      ∀ (index : Nat) (b : β), bs[index]? = some b → ∃ a, as[index]? = some a ∧ f a = .ok b := by
  induction as generalizing bs with
  | nil =>
    cases h
    exact ⟨rfl, fun index b hb => (nomatch hb)⟩
  | cons a as ih =>
    rw [List.mapM_cons, bind_eq_ok_iff] at h
    obtain ⟨first, hfirst, h⟩ := h
    obtain ⟨rest, hrest, h⟩ := bind_eq_ok_iff.mp h
    obtain rfl : first :: rest = bs := Except.ok.inj h
    obtain ⟨hlength, hget⟩ := ih hrest
    refine ⟨congrArg Nat.succ hlength, fun index b hb => ?_⟩
    -- the first place is the head's, the others are one further on than in the rest
    cases index with
    | zero =>
      cases hb
      exact ⟨a, rfl, hfirst⟩
    | succ index => exact hget index b hb

/-- Results are there one and all iff each is the result for what stands in its place. -/
theorem mapM_eq_ok_iff {f : α → Result β} {as : List α} {bs : List β} :
    as.mapM f = .ok bs ↔ List.Forall₂ (fun a b => f a = .ok b) as bs := by
  induction as generalizing bs with
  | nil =>
    rw [List.forall₂_nil_left_iff]
    exact ⟨fun h => (Except.ok.inj h).symm, fun h => h ▸ rfl⟩
  | cons a as ih =>
    rw [List.mapM_cons, bind_eq_ok_iff, List.forall₂_cons_left_iff]
    simp only [bind_eq_ok_iff, ih]
    constructor
    · rintro ⟨b, hb, bs', hbs, h⟩
      exact ⟨b, bs', hb, hbs, (Except.ok.inj h).symm⟩
    · rintro ⟨b, bs', hb, hbs, rfl⟩
      exact ⟨b, hb, bs', hbs, rfl⟩

/-- Results are there one and all iff each of them is. -/
theorem exists_mapM_iff {f : α → Result β} {as : List α} :
    (∃ bs, as.mapM f = .ok bs) ↔ ∀ a ∈ as, ∃ b, f a = .ok b := by
  induction as with
  | nil => exact ⟨fun _ _ ha => (nomatch ha), fun _ => ⟨[], rfl⟩⟩
  | cons a as ih =>
    rw [List.forall_mem_cons, ← ih]
    simp only [List.mapM_cons, bind_eq_ok_iff]
    constructor
    · rintro ⟨_, b, hb, bs, hbs, -⟩
      exact ⟨⟨b, hb⟩, ⟨bs, hbs⟩⟩
    · rintro ⟨⟨b, hb⟩, ⟨bs, hbs⟩⟩
      exact ⟨b :: bs, b, hb, bs, hbs, rfl⟩

/-- A cause that neither a result nor what is made of it fails with. -/
theorem bind_ne_error {result : Result α} {f : α → Result β} {cause : Error}
    (hresult : result ≠ .error cause) (hf : ∀ a, f a ≠ .error cause) :
    (result >>= f) ≠ .error cause := by
  intro h
  rcases bind_eq_error_iff.mp h with h | ⟨a, -, h⟩
  · exact hresult h
  · exact hf a h

/-- Of several results, the first one that fails is the cause why they are not all there. -/
theorem mapM_eq_error_iff {f : α → Result β} {as : List α} {cause : Error} :
    as.mapM f = .error cause ↔
      ∃ (index : Nat) (a : α), as[index]? = some a ∧ f a = .error cause ∧
        ∀ earlier < index, ∀ b, as[earlier]? = some b → ∃ c, f b = .ok c := by
  induction as with
  | nil => exact ⟨fun h => (nomatch h), fun ⟨_, _, h, _⟩ => (nomatch h)⟩
  | cons a as ih =>
    rw [List.mapM_cons]
    cases hfirst : f a with
    | error found =>
      constructor
      · intro h
        exact ⟨0, a, rfl, hfirst.trans (congrArg Except.error (Except.error.inj h)),
          fun _ hlt => (nomatch hlt)⟩
      · rintro ⟨index, b, hb, hcause, hearlier⟩
        cases index with
        | zero =>
          cases hb
          exact congrArg Except.error (Except.error.inj (hfirst.symm.trans hcause))
        | succ index =>
          obtain ⟨c, hc⟩ := hearlier 0 (Nat.succ_pos _) a rfl
          cases hfirst.symm.trans hc
    | ok c =>
      have hrest : ((.ok c : Result β) >>= fun first => as.mapM f >>= fun rest =>
          pure (first :: rest)) = .error cause ↔ as.mapM f = .error cause := by
        show (as.mapM f >>= fun rest => pure (c :: rest)) = .error cause ↔ _
        cases as.mapM f with
        | error found => exact ⟨fun h => congrArg _ (Except.error.inj h), fun h => h ▸ rfl⟩
        | ok rest => exact ⟨fun h => (nomatch h), fun h => (nomatch h)⟩
      rw [hrest, ih]
      -- places in the rest are one further on in the whole list
      constructor
      · rintro ⟨index, b, hb, hcause, hearlier⟩
        refine ⟨index + 1, b, hb, hcause, fun earlier hlt d hd => ?_⟩
        cases earlier with
        | zero =>
          cases hd
          exact ⟨c, hfirst⟩
        | succ earlier => exact hearlier earlier (Nat.lt_of_succ_lt_succ hlt) d hd
      · rintro ⟨index, b, hb, hcause, hearlier⟩
        cases index with
        | zero =>
          cases hb
          cases hfirst.symm.trans hcause
        | succ index =>
          refine ⟨index, b, hb, hcause, fun earlier hlt d hd => ?_⟩
          exact hearlier (earlier + 1) (Nat.succ_lt_succ hlt) d hd

theorem mapM_ne_error {f : α → Result β} {cause : Error} (hf : ∀ a, f a ≠ .error cause)
    (as : List α) : as.mapM f ≠ .error cause := by
  intro h
  obtain ⟨_, a, -, hcause, -⟩ := mapM_eq_error_iff.mp h
  exact hf a hcause

/-- A run through a list is refused iff one of its steps is, from what the steps before it
came to. -/
theorem foldlM_eq_error_iff {f : β → α → Result β} {as : List α} {b : β} {cause : Error} :
    as.foldlM f b = .error cause ↔
      ∃ (index : Nat) (a : α) (c : β), as[index]? = some a ∧
        (as.take index).foldlM f b = .ok c ∧ f c a = .error cause := by
  -- for every start, as the rest of the list goes on from what the first step makes
  induction as generalizing b with
  | nil => exact ⟨fun h => (nomatch h), fun ⟨_, _, _, h, _⟩ => (nomatch h)⟩
  | cons a as ih =>
    rw [List.foldlM_cons, bind_eq_error_iff]
    simp only [ih]
    constructor
    · rintro (hfirst | ⟨next, hfirst, index, later, c, hlater, hprefix, hcause⟩)
      · exact ⟨0, a, b, rfl, rfl, hfirst⟩
      · refine ⟨index + 1, later, c, hlater, ?_, hcause⟩
        rw [List.take_succ_cons, List.foldlM_cons, hfirst]
        exact hprefix
    · rintro ⟨index, later, c, hlater, hprefix, hcause⟩
      cases index with
      | zero =>
        cases hlater
        cases hprefix
        exact .inl hcause
      | succ index =>
        rw [List.take_succ_cons, List.foldlM_cons] at hprefix
        obtain ⟨next, hfirst, hrest⟩ := bind_eq_ok_iff.mp hprefix
        exact .inr ⟨next, hfirst, index, later, c, hlater, hrest, hcause⟩

/-- In a run through a list that comes to an end, each step is taken from what the steps
before it came to. -/
theorem exists_step_of_foldlM {f : β → α → Result β} {as : List α} {b d : β}
    (h : as.foldlM f b = .ok d) {index : Nat} {a : α} (ha : as[index]? = some a) :
    ∃ c next, (as.take index).foldlM f b = .ok c ∧ f c a = .ok next := by
  obtain ⟨hindex, rfl⟩ := List.getElem?_eq_some_iff.mp ha
  rw [← List.take_append_drop index as, List.foldlM_append] at h
  obtain ⟨c, hprefix, hrest⟩ := bind_eq_ok_iff.mp h
  rw [List.drop_eq_getElem_cons hindex, List.foldlM_cons] at hrest
  obtain ⟨next, hstep, -⟩ := bind_eq_ok_iff.mp hrest
  exact ⟨c, next, hprefix, hstep⟩

/-- A list of results that is there for the places of a list: each is the result for its own
place. -/
theorem mapM_range_eq_ok_iff {f : Nat → Result β} {count : Nat} {bs : List β} :
    (List.range count).mapM f = .ok bs ↔
      bs.length = count ∧ ∀ (index : Nat) (b : β), bs[index]? = some b → f index = .ok b := by
  constructor
  · intro h
    obtain ⟨hlength, hget⟩ := getElem?_of_mapM h
    rw [List.length_range] at hlength
    refine ⟨hlength, fun index b hb => ?_⟩
    obtain ⟨place, hplace, hresult⟩ := hget index b hb
    obtain ⟨hindex, rfl⟩ := List.getElem?_eq_some_iff.mp hplace
    rwa [List.getElem_range] at hresult
  · rintro ⟨rfl, h⟩
    rw [mapM_eq_ok_iff, List.forall₂_iff_get]
    refine ⟨List.length_range, fun index hplace hindex => ?_⟩
    have hresult := h index bs[index] (List.getElem?_eq_getElem hindex)
    simpa only [List.get_eq_getElem, List.getElem_range] using hresult

/-- Going from place to place is going over the list, if each place has the result of what stands
in it. -/
theorem mapM_range_of_getElem? {f : Nat → Result β} {g : α → Result β} {as : List α}
    (h : ∀ (index : Nat) (a : α), as[index]? = some a → f index = g a) :
    (List.range as.length).mapM f = as.mapM g := by
  induction as generalizing f with
  | nil => rfl
  | cons a as ih =>
    have hrest : (List.range as.length).mapM (f ∘ Nat.succ) = as.mapM g :=
      ih fun index b hb => h (index + 1) b hb
    rw [List.length_cons, List.range_succ_eq_map, List.mapM_cons, List.mapM_map, hrest,
      List.mapM_cons, h 0 a rfl]

/-- Only the results for members of a list matter. -/
theorem mapM_congr_of_mem {f g : α → Result β} {as : List α} (h : ∀ a ∈ as, f a = g a) :
    as.mapM f = as.mapM g := by
  induction as with
  | nil => rfl
  | cons a as ih =>
    rw [List.forall_mem_cons] at h
    rw [List.mapM_cons, List.mapM_cons, h.1, ih h.2]

/-- Whether each result is made into another one at once, or all of them afterwards, can only
be seen when something fails. -/
theorem mapM_bind_eq_ok_iff {γ : Type} {f : α → Result β} {g : β → Result γ} {as : List α}
    {cs : List γ} :
    as.mapM (fun a => f a >>= g) = .ok cs ↔ ∃ bs, as.mapM f = .ok bs ∧ bs.mapM g = .ok cs := by
  simp only [mapM_eq_ok_iff, bind_eq_ok_iff]
  induction as generalizing cs with
  | nil => simp
  | cons a as ih =>
    simp only [List.forall₂_cons_left_iff, ih]
    constructor
    · rintro ⟨c, cs, ⟨b, hb, hc⟩, ⟨bs, hbs, hcs⟩, rfl⟩
      exact ⟨b :: bs, ⟨b, bs, hb, hbs, rfl⟩, .cons hc hcs⟩
    · rintro ⟨_, ⟨b, bs, hb, hbs, rfl⟩, h⟩
      cases h with
      | cons hc hcs => exact ⟨_, _, ⟨b, hb, hc⟩, ⟨bs, hbs, hcs⟩, rfl⟩

/-- Results none of which fails are there one and all. -/
theorem mapM_ok_eq_ok_iff {f : α → β} {as : List α} {bs : List β} :
    as.mapM (fun a => (.ok (f a) : Result β)) = .ok bs ↔ as.map f = bs := by
  rw [show as.mapM (fun a => (.ok (f a) : Result β)) = .ok (as.map f) from List.mapM_pure]
  exact ⟨Except.ok.inj, congrArg Except.ok⟩

/-- A refusal goes before the result, which is there iff there is no refusal and it is there. -/
theorem refused_eq_ok_iff {condition : Prop} [Decidable condition] {cause : Error}
    {result : Result α} {a : α} :
    (if condition then .error cause else result) = .ok a ↔ ¬ condition ∧ result = .ok a := by
  by_cases h : condition
  · rw [if_pos h]
    exact ⟨fun hresult => (nomatch hresult), fun hresult => absurd h hresult.1⟩
  · rw [if_neg h]
    exact ⟨fun hresult => ⟨h, hresult⟩, fun hresult => hresult.2⟩

/-- A cause that neither a refusal nor the result fails with. -/
theorem refused_ne_error {condition : Prop} [Decidable condition] {cause other : Error}
    {result : Result α} (hcause : cause ≠ other) (hresult : result ≠ .error other) :
    (if condition then .error cause else result) ≠ .error other := by
  by_cases h : condition
  · rw [if_pos h]
    exact fun hother => hcause (Except.error.inj hother)
  · rw [if_neg h]
    exact hresult

/-- Going over the results once more changes nothing about what fails. -/
theorem mapM_map_result {γ : Type} (f : β → γ) (g : α → Result β) (as : List α) :
    as.mapM (fun a => f <$> g a) = List.map f <$> as.mapM g := by
  induction as with
  | nil => rfl
  | cons a as ih =>
    rw [List.mapM_cons, List.mapM_cons, ih]
    cases g a with
    | error cause => rfl
    | ok b => cases as.mapM g <;> rfl

/-! ## The property -/

/-- A step gives a result if it has this result from every state. -/
def Gives (step : ExceptT Error (StateM σ) α) (result : Result α) : Prop :=
  ∀ state, (step.run.run state).1 = result

/-- What a step gives from every state is what it gives from any one of them. -/
theorem Gives.of_state {step : ExceptT Error (StateM σ) α} {result : Result α}
    (h : Gives step result) (state : σ) : Gives step (step.run.run state).1 :=
  fun other => (h other).trans (h state).symm

/-! ## Running one step after the other -/

theorem run_bind (step : ExceptT Error (StateM σ) α) (f : α → ExceptT Error (StateM σ) β)
    (state : σ) :
    (step >>= f).run.run state =
      match step.run.run state with
      | (.ok a, next) => (f a).run.run next
      | (.error cause, next) => (.error cause, next) := by
  show (ExceptT.bind step f).run.run state = _
  simp only [ExceptT.bind, ExceptT.bindCont, ExceptT.run, ExceptT.mk, StateT.run, bind,
    StateT.bind]
  rcases step state with ⟨result, next⟩
  cases result <;> rfl

/-- Two steps succeed iff the first one does and then the second one, from the state that the
first one has left. -/
theorem run_bind_eq_ok_iff {step : ExceptT Error (StateM σ) α}
    {f : α → ExceptT Error (StateM σ) β} {state last : σ} {b : β} :
    (step >>= f).run.run state = (.ok b, last) ↔
      ∃ a next, step.run.run state = (.ok a, next) ∧ (f a).run.run next = (.ok b, last) := by
  rw [run_bind]
  rcases hstep : step.run.run state with ⟨cause | a, next⟩
  · constructor
    · intro h
      cases (Prod.mk.inj h).1
    · rintro ⟨_, _, h, -⟩
      cases (Prod.mk.inj h).1
  · constructor
    · intro h
      exact ⟨a, next, rfl, h⟩
    · rintro ⟨_, _, h, hf⟩
      obtain ⟨ha, rfl⟩ := Prod.mk.inj h
      cases ha
      exact hf

/-- A run of two steps that succeeds is a run of each of them that succeeds. -/
theorem exists_of_run_bind {step : ExceptT Error (StateM σ) α}
    {f : α → ExceptT Error (StateM σ) β} {state : σ} {b : β}
    (h : ((step >>= f).run.run state).1 = .ok b) :
    ∃ a next, step.run.run state = (.ok a, next) ∧ ((f a).run.run next).1 = .ok b := by
  rw [run_bind] at h
  rcases hstep : step.run.run state with ⟨_ | a, next⟩
  · rw [hstep] at h
    cases h
  · rw [hstep] at h
    exact ⟨a, next, rfl, h⟩

/-! ## Steps that give their results -/

theorem gives_pure (a : α) : Gives (pure a : ExceptT Error (StateM σ) α) (.ok a) :=
  fun _ => rfl

theorem gives_throw (cause : Error) :
    Gives (throw cause : ExceptT Error (StateM σ) α) (.error cause) :=
  fun _ => rfl

/-- A computation without a state gives what it is. -/
theorem gives_lift (result : Result α) :
    Gives (liftM result : ExceptT Error (StateM σ) α) result := by
  intro state
  cases result <;> rfl

/-! ## What is put together from them -/

/-- What follows a step and gives its results, from whatever state, is put behind its result. -/
theorem fst_run_bind {step : ExceptT Error (StateM σ) α} {result : Result α} {state : σ}
    {f : α → ExceptT Error (StateM σ) β} {g : α → Result β}
    (hstep : (step.run.run state).1 = result) (hf : ∀ a, Gives (f a) (g a)) :
    ((step >>= f).run.run state).1 = result >>= g := by
  rw [run_bind]
  -- the result decides how it goes on; the state it goes on from does not matter
  rcases hrun : step.run.run state with ⟨_ | a, next⟩
  · rw [hrun] at hstep
    subst hstep
    rfl
  · rw [hrun] at hstep
    subst hstep
    exact hf a next

theorem Gives.bind {step : ExceptT Error (StateM σ) α} {result : Result α}
    {f : α → ExceptT Error (StateM σ) β} {g : α → Result β} (hstep : Gives step result)
    (hf : ∀ a, Gives (f a) (g a)) : Gives (step >>= f) (result >>= g) := by
  intro state
  exact fst_run_bind (hstep state) hf

/-- Two steps that give a result together do so before whatever follows. -/
theorem Gives.bind_pair {γ : Type} {first : ExceptT Error (StateM σ) α}
    {second : α → ExceptT Error (StateM σ) β} {result : Result β}
    {f : β → ExceptT Error (StateM σ) γ} {g : β → Result γ}
    (hpair : Gives (first >>= second) result) (hf : ∀ b, Gives (f b) (g b)) :
    Gives (first >>= fun a => second a >>= f) (result >>= g) := by
  rw [← bind_assoc]
  exact hpair.bind hf

theorem Gives.map {step : ExceptT Error (StateM σ) α} {result : Result α}
    (hstep : Gives step result) (f : α → β) : Gives (f <$> step) (f <$> result) := by
  rw [map_eq_pure_bind, map_eq_pure_bind]
  exact hstep.bind fun a => gives_pure (f a)

theorem gives_mapM {f : α → ExceptT Error (StateM σ) β} {g : α → Result β}
    (hf : ∀ a, Gives (f a) (g a)) (as : List α) : Gives (as.mapM f) (as.mapM g) := by
  induction as with
  | nil =>
    rw [List.mapM_nil, List.mapM_nil]
    exact gives_pure []
  | cons a as ih =>
    rw [List.mapM_cons, List.mapM_cons]
    exact (hf a).bind fun b => ih.bind fun bs => gives_pure (b :: bs)

/-- Steps none of which fails make up a run that does not fail. -/
theorem gives_mapM_ok {f : α → ExceptT Error (StateM σ) β} {g : α → β}
    (hf : ∀ a, Gives (f a) (.ok (g a))) (as : List α) : Gives (as.mapM f) (.ok (as.map g)) := by
  have h := gives_mapM hf as
  rwa [show as.mapM (fun a => (.ok (g a) : Result β)) = .ok (as.map g) from List.mapM_pure] at h

/-- What none of the results fails in can be made of them afterwards. -/
theorem gives_map_ok (f : α → β) (as : List α) :
    Gives (pure (as.map f) : ExceptT Error (StateM σ) (List β))
      (as.mapM fun a => .ok (f a)) := by
  rw [show as.mapM (fun a => (.ok (f a) : Result β)) = .ok (as.map f) from List.mapM_pure]
  exact gives_pure (as.map f)

end Minidump
