import SchemaMigration.Log

/-!
# The steps of a logged computation, seen by what they result in

The records of a computation never decide how it goes on, so its result is that of the same steps
without any record (`Logged.result_bind`). A sequence of steps succeeds when every step does
(`Logged.bind_eq_ok_iff`) and fails with the error of the first step that does not
(`Logged.bind_eq_error_iff`). Callers that ask only how a computation ends use these and do not look
at records at all. Those that compare the records of two computations as well show step by step that
both go alike (`Logged.Alike`).
-/

namespace SchemaMigration.Logged

variable {ε ε' α β : Type}

/-! ## Results -/

theorem result_ofExcept (result : Except ε α) : (ofExcept result).result = result := rfl

theorem result_bind (first : Logged ε α) (next : α → Logged ε β) :
    (first >>= next).result = first.result >>= fun value => (next value).result := by
  show (Logged.bind first next).result = _
  unfold Logged.bind
  cases first.result with
  | ok value => rfl
  | error error => rfl

theorem bind_eq_ok_iff {first : Logged ε α} {next : α → Logged ε β} {value : β} :
    (first >>= next).result = .ok value ↔
      ∃ found, first.result = .ok found ∧ (next found).result = .ok value := by
  rw [result_bind]
  -- What the first step results in is all that the next one sees.
  cases first.result with
  | error error =>
    constructor
    · nofun
    · rintro ⟨found, hfound, -⟩
      cases hfound
  | ok found =>
    constructor
    · intro h
      exact ⟨found, rfl, h⟩
    · rintro ⟨found', hfound, h⟩
      cases hfound
      exact h

theorem bind_eq_error_iff {first : Logged ε α} {next : α → Logged ε β} {error : ε} :
    (first >>= next).result = .error error ↔
      first.result = .error error ∨
        ∃ found, first.result = .ok found ∧ (next found).result = .error error := by
  rw [result_bind]
  cases first.result with
  | error cause =>
    constructor
    · intro h
      cases h
      exact .inl rfl
    · rintro (h | ⟨found, hfound, -⟩)
      · cases h
        rfl
      · cases hfound
  | ok found =>
    constructor
    · intro h
      exact .inr ⟨found, rfl, h⟩
    · rintro (h | ⟨found', hfound, h⟩)
      · cases h
      · cases hfound
        exact h

/-- After a first step that succeeds, the next one decides the result and adds its records. -/
theorem bind_of_ok {first : Logged ε α} (value : α) (next : α → Logged ε β)
    (h : first.result = .ok value) :
    first >>= next = ⟨first.records ++ (next value).records, (next value).result⟩ := by
  show Logged.bind first next = _
  unfold Logged.bind
  rw [h]

/-- Nothing follows a first step that fails. -/
theorem bind_of_error {first : Logged ε α} (error : ε) (next : α → Logged ε β)
    (h : first.result = .error error) : first >>= next = ⟨first.records, .error error⟩ := by
  show Logged.bind first next = _
  unfold Logged.bind
  rw [h]

theorem mapError_eq_ok_iff {f : ε → ε'} {logged : Logged ε α} {value : α} :
    (logged.mapError f).result = .ok value ↔ logged.result = .ok value := by
  show logged.result.mapError f = .ok value ↔ _
  cases logged.result with
  | ok found =>
    show Except.ok found = Except.ok value ↔ _
    rw [Except.ok.injEq, Except.ok.injEq]
  | error cause =>
    constructor
    · intro h
      cases h
    · intro h
      cases h

theorem mapError_eq_error_iff {f : ε → ε'} {logged : Logged ε α} {error : ε'} :
    (logged.mapError f).result = .error error ↔
      ∃ cause, logged.result = .error cause ∧ f cause = error := by
  show logged.result.mapError f = .error error ↔ _
  cases logged.result with
  | ok found =>
    constructor
    · nofun
    · rintro ⟨cause, hcause, -⟩
      cases hcause
  | error cause =>
    constructor
    · intro h
      cases h
      exact ⟨cause, rfl, rfl⟩
    · rintro ⟨cause', hcause, rfl⟩
      cases hcause
      rfl

/-! ## Steps without records -/

/-- Both computations log the same, and one fails as the other does. -/
def Alike (first : Logged ε α) (second : Logged ε β) : Prop :=
  first.records = second.records ∧
    ∀ error, first.result = .error error ↔ second.result = .error error

namespace Alike

variable {γ : Type} {first : Logged ε α} {second : Logged ε β} {third : Logged ε γ}

theorem trans (h : Alike first second) (h' : Alike second third) : Alike first third :=
  ⟨h.1.trans h'.1, fun error => (h.2 error).trans (h'.2 error)⟩

theorem pure (value : α) (other : β) :
    Alike (Pure.pure value : Logged ε α) (Pure.pure other : Logged ε β) :=
  ⟨rfl, fun _ => ⟨nofun, nofun⟩⟩

theorem error (records : List LogRecord) (cause : ε) :
    Alike (⟨records, .error cause⟩ : Logged ε α) (⟨records, .error cause⟩ : Logged ε β) :=
  ⟨rfl, fun _ => by rw [Except.error.injEq, Except.error.injEq]⟩

/-- What fails alike fails alike with another kind of error. -/
theorem mapError (f : ε → ε') (h : Alike first second) :
    Alike (first.mapError f) (second.mapError f) := by
  refine ⟨h.1, fun error => ?_⟩
  rw [mapError_eq_error_iff, mapError_eq_error_iff]
  exact exists_congr fun cause => and_congr_left fun _ => h.2 cause

/-- What goes on alike after the same step goes alike. -/
theorem bind (run : Logged ε γ) {next : γ → Logged ε α} {next' : γ → Logged ε β}
    (h : ∀ value, Alike (next value) (next' value)) : Alike (run >>= next) (run >>= next') := by
  rcases run with ⟨records, error | value⟩
  -- The step fails, and nothing follows it in either computation.
  · exact .error records error
  · obtain ⟨hrecords, hresult⟩ := h value
    exact ⟨congrArg (records ++ ·) hrecords, hresult⟩

end Alike

end SchemaMigration.Logged
