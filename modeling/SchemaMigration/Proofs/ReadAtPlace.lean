import SchemaMigration.Proofs.Form
import SchemaMigration.Proofs.Refusal

/-!
# Where the fault of a document is reported

A reader of documents does not know where its value stands: a step into a part is put in front of
the path of a fault when the part has been read. The readers here are told the place of their value
as a text. They hand it on, longer by a step, to the reader of each part, never see a path, and
report a fault at once with its whole place (`Document.Position.readAt`).

Both report the same (`Document.Position.readAt_eq`): one level of reading does if the readers of
the parts do (`Document.Position.levelAt_eq`), and the parts of a value are smaller than the value.
-/

namespace SchemaMigration

namespace Document

variable {α β : Type}

theorem Path.render_cons (step : Step) (path : Path) :
    Path.render (step :: path) = step.render ++ path.render := by
  simp [Path.render]

/-- A fault with the whole text of its place. -/
structure Report where
  location : String
  reason : Reason

/-- What is read from a value at a place, or the first fault in it. -/
abbrev Reporting := Except Report

def LoadError.report (error : LoadError) : Report :=
  ⟨error.location, error.fault.reason⟩

namespace Loading

/-- What is reported when the value stands at the place. -/
def reportedAt (location : String) (loading : Loading α) : Reporting α :=
  (loading.named location).mapError LoadError.report

/-- A fault is reported at the place itself, wherever in the value it lies. -/
def here (location : String) (loading : Loading α) : Reporting α :=
  loading.mapError fun fault => ⟨location, fault.reason⟩

@[simp] theorem reportedAt_ok (location : String) (result : α) :
    reportedAt location (.ok result) = .ok result := rfl

@[simp] theorem reportedAt_error (location : String) (fault : Fault) :
    reportedAt location (.error fault : Loading α) =
      .error ⟨location ++ fault.path.render, fault.reason⟩ := rfl

theorem reportedAt_eq_ok_iff {location : String} {loading : Loading α} {result : α} :
    loading.reportedAt location = .ok result ↔ loading = .ok result := by
  cases loading <;> simp

theorem reportedAt_eq_error_iff {location : String} {loading : Loading α} {report : Report} :
    loading.reportedAt location = .error report ↔
      ∃ fault, loading = .error fault ∧ ⟨location ++ fault.path.render, fault.reason⟩ = report := by
  cases loading <;> simp

theorem reportedAt_bind (location : String) (first : Loading α) (next : α → Loading β) :
    (first >>= next).reportedAt location =
      first.reportedAt location >>= fun result => (next result).reportedAt location := by
  cases first <;> rfl

/-- A step into a part is a step of the place. -/
theorem reportedAt_under (location : String) (step : Step) (loading : Loading α) :
    (loading.under step).reportedAt location = loading.reportedAt (location ++ step.render) := by
  cases loading with
  | ok result => rfl
  | error fault =>
    simp [under, Path.render_cons, String.append_assoc]

/-- Every fault lies in the value as a whole. -/
def AtRoot (loading : Loading α) : Prop :=
  ∀ fault, loading = .error fault → fault.path = []

theorem AtRoot.here_eq {loading : Loading α} (h : loading.AtRoot) (location : String) :
    loading.here location = loading.reportedAt location := by
  cases loading with
  | ok result => rfl
  | error fault =>
    have hpath := h fault rfl
    simp [here, Except.mapError, hpath, Path.render]

theorem AtRoot.ok (result : α) : AtRoot (.ok result) := nofun

theorem AtRoot.refuse (reason : Reason) : AtRoot (Loading.refuse reason : Loading α) := by
  rintro fault ⟨⟩
  rfl

theorem AtRoot.bind {first : Loading α} {next : α → Loading β} (hfirst : first.AtRoot)
    (hnext : ∀ result, (next result).AtRoot) : (first >>= next).AtRoot := by
  cases first with
  | error fault =>
    rintro _ ⟨⟩
    exact hfirst fault rfl
  | ok result => exact hnext result

end Loading

open Loading

/-! ## Readers that do not step into their value -/

theorem atRoot_shown (value : Value) : (shown value).AtRoot := by
  rw [shown]
  split
  · exact .ok _
  · exact .refuse _

theorem atRoot_keywordOfValue (value : Value) : (keywordOfValue value).AtRoot :=
  (atRoot_shown value).bind fun _ => .ok _

theorem atRoot_targetOfValue (value : Value) : (Target.ofValue value).AtRoot := by
  refine (atRoot_shown value).bind fun text => ?_
  split
  · exact .ok _
  · exact .refuse _

theorem atRoot_require (entries : Entries) (key : String) : (require entries key).AtRoot := by
  unfold require
  split
  · exact .refuse _
  · split
    · exact .refuse _
    · exact .ok _

theorem atRoot_textOrEmpty (entries : Entries) (key : String) :
    (textOrEmpty entries key).AtRoot := by
  unfold textOrEmpty
  split
  · split
    · exact atRoot_shown _
    · exact .ok _
  · exact .ok _

theorem atRoot_identifierOfValue (value : Value) : (Identifier.ofValue value).AtRoot := by
  unfold Identifier.ofValue
  split
  · exact .ok _
  · exact .ok _
  -- Whatever is wrong with the name or the container, it is the fault of the record.
  · refine (atRoot_require _ "name").bind fun name => (atRoot_shown _).bind fun text => ?_
    split
    · exact .ok _
    · split
      · exact (atRoot_shown _).bind fun _ => .ok _
      · exact .ok _
  · exact .refuse _

theorem atRoot_pairOfValue (value : Value) : (pairOfValue value).AtRoot := by
  unfold pairOfValue ofMapping
  split
  · refine (atRoot_require _ "field").bind fun field => ?_
    exact (atRoot_require _ "value").bind fun value => .ok _
  · exact .refuse _

theorem atRoot_batchItems (value : Value) : (batchItems value).AtRoot := by
  unfold batchItems
  split
  · exact .ok _
  · refine (atRoot_require _ "statements").bind fun found => ?_
    split
    · exact .ok _
    · exact .refuse _
  · exact .refuse _

/-- A value that is no mapping has no parts where a mapping is asked for. -/
theorem atRoot_read_of_not_mapping {position : Position} {form : Form position.Result}
    {value : Value} (hform : position.form? = some form)
    (hcontent : ∀ entries, value.content ≠ .mapping entries) : (position.read value).AtRoot := by
  -- Most readers of mappings refuse everything else through `ofMapping`.
  have hmapping : ∀ {γ : Type} (reason : Reason) (read : Entries → Loading γ),
      (ofMapping reason read value).AtRoot := by
    intro γ reason read
    rw [ofMapping]
    split
    · next entries h => exact absurd h (hcontent entries)
    · exact .refuse _
  -- A position without a form is excluded, and all others refuse what is no mapping.
  cases position with
  | statement => exact hmapping .statementNotMapping _
  | select => exact hmapping .selectNotMapping _
  | conflict => exact hmapping .conflictNotMapping _
  | column =>
    show (Column.ofValue value).AtRoot
    rw [Column.ofValue_eq_ofMapping]
    exact hmapping .columnNotMapping _
  | identifier => exact atRoot_identifierOfValue value
  | table =>
    show (TableRef.ofValue value).AtRoot
    unfold TableRef.ofValue
    split
    · next entries h => exact absurd h (hcontent entries)
    · exact (atRoot_identifierOfValue value).bind fun _ => .ok _
  | expression =>
    show (Expr.ofValue value).AtRoot
    rw [Expr.ofValue]
    split
    case h_4 => exact (atRoot_shown _).bind fun _ => .ok _
    case h_6 entries h => exact absurd h (hcontent entries)
    case h_7 => exact .refuse _
    all_goals exact .ok _
  | batch => cases hform
  | row => cases hform
  | pair => cases hform
  | keyword => cases hform
  | list _ => cases hform

/-! ## Readers that are told where they are -/

/-- Readers of the values that are inside. -/
abbrev Readers (inside : Value → Prop) : Type :=
  (position : Position) → String → (value : Value) → inside value → Reporting position.Result

section Levels

variable {inside : Value → Prop} (readers : Readers inside) (location : String)

section Mappings

variable (entries : Entries) (hinside : ∀ value, sizeOf value < sizeOf entries → inside value)

def Question.answerAt : Question α → Reporting α
  | text key => do
    let found ← (require entries key).here location
    (shown found.1).here location
  | keyword key => do
    let found ← (require entries key).here location
    (keywordOfValue found.1).here location
  | target key => do
    let found ← (require entries key).here location
    (Target.ofValue found.1).here (location ++ (Step.key key).render)
  | name key => do
    let found ← (require entries key).here location
    -- The name does not get a place of its own.
    readers .identifier location found.1 (hinside found.1 found.2)
  | part key position => do
    let found ← (require entries key).here location
    readers position (location ++ (Step.key key).render) found.1 (hinside found.1 found.2)
  | partIfAny key position =>
    match optional entries key with
    | none => .ok none
    | some found => do
      return some (← readers position (location ++ (Step.key key).render) found.1
        (hinside found.1 found.2))
  | partIfPresent key position =>
    match h : entries.get? key with
    | none => .ok none
    | some value => do
      return some (← readers position (location ++ (Step.key key).render) value
        (hinside value (Entries.sizeOf_get?_lt h)))
  | listIfPresent key position =>
    match h : entries.get? key with
    | none => .ok []
    | some value =>
      readers (.list position) (location ++ (Step.key key).render) value
        (hinside value (Entries.sizeOf_get?_lt h))
  | textIfAny key => (textOrEmpty entries key).here location
  | flag key =>
    match optional entries key with
    | none => .ok false
    | some found =>
      match found.1.toFlag? with
      | some b => .ok b
      | none => .error ⟨location ++ (Step.key key).render, .notAFlag found.1⟩

def Form.runAt : Form α → Reporting α
  | done result => .ok result
  | refuse reason => .error ⟨location, reason⟩
  | ask question next => do
    let answer ← question.answerAt readers location entries hinside
    (next answer).runAt

end Mappings

/-- The items of a list stand at their indices. -/
def itemsAt (step : Nat → Step) (read : String → (value : Value) → inside value → Reporting α) :
    Nat → (items : List Value) → (∀ item ∈ items, inside item) → Reporting (List α)
  | _, [], _ => .ok []
  | i, item :: rest, h => do
    let first ← read (location ++ (step i).render) item (h item List.mem_cons_self)
    return first :: (← itemsAt step read (i + 1) rest fun other hother =>
      h other (List.mem_cons_of_mem item hother))

def cellAt (pair : Value × Value) (h : inside pair.2) : Reporting (String × Expr) := do
  let name ← (shown pair.1).here location
  return (name, ← readers .expression (location ++ (Step.key name).render) pair.2 h)

def cellsAt : (pairs : Entries) → (∀ pair ∈ pairs, inside pair.2) →
    Reporting (List (String × Expr))
  | [], _ => .ok []
  | pair :: rest, h => do
    let first ← cellAt readers location pair (h pair List.mem_cons_self)
    return first :: (← cellsAt rest fun other hother => h other (List.mem_cons_of_mem pair hother))

end Levels

def pairsAt (location : String) (value : Value) : Reporting Entries :=
  match value.content with
  | .mapping entries => .ok entries
  | .list items =>
    itemsAt location .index (fun place item (_ : True) => (pairOfValue item).here place) 0 items
      fun _ _ => trivial
  | _ => .error ⟨location, .valuesShape⟩

/-! ### Parts are smaller -/

theorem exists_mem_of_forall₂ {R : α → β → Prop} {as : List α} {bs : List β}
    (h : List.Forall₂ R as bs) {b : β} (hb : b ∈ bs) : ∃ a ∈ as, R a b := by
  induction h with
  | nil => exact absurd hb List.not_mem_nil
  | cons hab _ ih =>
    rcases List.mem_cons.mp hb with rfl | hb
    · exact ⟨_, List.mem_cons_self, hab⟩
    · obtain ⟨a, ha, h⟩ := ih hb
      exact ⟨a, List.mem_cons_of_mem _ ha, h⟩

theorem sizeOf_lt_of_mem_content {value : Value} {items : List Value}
    (hcontent : value.content = .list items) : ∀ item ∈ items, sizeOf item < sizeOf value := by
  intro item hitem
  have hsize := List.sizeOf_lt_of_mem hitem
  have hitems := Value.sizeOf_lt_of_content_eq_list hcontent
  omega

theorem sizeOf_lt_of_spellsPair {item : Value} {pair : Value × Value} (h : SpellsPair item pair) :
    sizeOf pair.2 < sizeOf item := by
  obtain ⟨entries, hcontent, _, value, hget, _, hvalue⟩ := h
  cases hvalue
  exact Nat.lt_trans (Entries.sizeOf_get?_lt hget) (Value.sizeOf_lt_of_content_eq_mapping hcontent)

theorem sizeOf_lt_of_spellsPairs {value : Value} {pairs : Entries} (h : SpellsPairs value pairs) :
    ∀ pair ∈ pairs, sizeOf pair.2 < sizeOf value := by
  -- A pair is smaller than the list it stands in, and its value is smaller than the pair.
  cases h with
  | mapping hcontent =>
    intro pair hpair
    have hentry : sizeOf pair.2 < sizeOf pair := by
      rw [Prod.mk.sizeOf_spec]
      omega
    have hsize := List.sizeOf_lt_of_mem hpair
    have hpairs := Value.sizeOf_lt_of_content_eq_mapping hcontent
    omega
  | list hcontent hpairs =>
    intro pair hpair
    obtain ⟨item, hitem, hspells⟩ := exists_mem_of_forall₂ hpairs hpair
    exact Nat.lt_trans (sizeOf_lt_of_spellsPair hspells)
      (sizeOf_lt_of_mem_content hcontent item hitem)

theorem pairOfValue_eq_ok_iff {value : Value} {pair : Value × Value} :
    pairOfValue value = .ok pair ↔ SpellsPair value pair := by
  unfold pairOfValue
  simp only [ofMapping_eq_ok_iff, Loading.bind_eq_ok_iff, Loading.pure_eq_ok_iff, Subtype.exists,
    require_eq_ok_iff]
  constructor
  -- What is found under a key is smaller than the mapping.
  · rintro ⟨entries, hcontent, field, _, ⟨hfield, hfieldNull⟩, value, _, ⟨hvalue, hnull⟩, rfl⟩
    exact ⟨entries, hcontent, ⟨field, hfield, hfieldNull, rfl⟩, ⟨value, hvalue, hnull, rfl⟩⟩
  · rintro ⟨entries, hcontent, ⟨field, hfield, hfieldNull, hpair⟩, value, hvalue, hnull, hpair'⟩
    cases hpair
    cases hpair'
    exact ⟨entries, hcontent, _, Entries.sizeOf_get?_lt hfield, ⟨hfield, hfieldNull⟩, _,
      Entries.sizeOf_get?_lt hvalue, ⟨hvalue, hnull⟩, rfl⟩

theorem sizeOf_lt_of_batchItems {value : Value} {items : List Value}
    (h : batchItems value = .ok items) : ∀ item ∈ items, sizeOf item < sizeOf value := by
  unfold batchItems at h
  split at h
  -- The items of a list are smaller than the list.
  · next items' hcontent =>
    cases h
    exact sizeOf_lt_of_mem_content hcontent
  · next entries hcontent =>
    obtain ⟨found, hfound, h⟩ := Loading.bind_eq_ok_iff.mp h
    split at h
    · next items' hlist =>
      cases h
      intro item hitem
      have hitems := sizeOf_lt_of_mem_content hlist item hitem
      have hvalue := Value.sizeOf_lt_of_content_eq_mapping hcontent
      -- The list is smaller than the mapping under whose key it stands.
      have hfound := found.2
      omega
    · cases h
  · cases h

/-! ### Lists -/

/-- The pairs of a list are its items, read as pairs. -/
theorem pairsOfItems_eq_readItems (i : Nat) (items : List Value) :
    pairsOfItems i items = readItems .index pairOfValue i items := by
  refine eq_readItems (fun _ => by rw [pairsOfItems]) (fun i item rest => ?_) i items
  rw [pairsOfItems, pairOfValue, ofMapping]
  cases item.content with
  | mapping entries =>
    simp only [Loading.under_bind, bind_assoc]
    rfl
  | _ => rfl

theorem rowOfPairs_cons (pair : Value × Value) (rest : Entries) :
    rowOfPairs (pair :: rest) =
      cellOfPair pair >>= fun first => rowOfPairs rest >>= fun others =>
        .ok (first :: others) := by
  rw [rowOfPairs, cellOfPair]
  simp only [bind_assoc]
  rfl

section Lists

variable {inside : Value → Prop}

theorem itemsAt_eq {location : String} {step : Nat → Step}
    {readAt : String → (value : Value) → inside value → Reporting α} {read : Value → Loading α}
    (hread : ∀ place value h, readAt place value h = (read value).reportedAt place)
    (items : List Value) (h : ∀ item ∈ items, inside item) (i : Nat) :
    itemsAt location step readAt i items h = (readItems step read i items).reportedAt location := by
  induction items generalizing i with
  | nil => rfl
  | cons item rest ih =>
    -- An item is read at the place with its step behind it, and its path has the step in front.
    rw [itemsAt, readItems, hread, reportedAt_bind, reportedAt_under]
    refine bind_congr fun first => ?_
    rw [ih, reportedAt_bind]
    rfl

theorem pairsAt_eq (location : String) (value : Value) :
    pairsAt location value = (pairsOfValue value).reportedAt location := by
  rw [pairsAt, pairsOfValue]
  cases value.content with
  | mapping entries => rfl
  | list items =>
    dsimp only
    rw [pairsOfItems_eq_readItems]
    exact itemsAt_eq (fun place item _ => (atRoot_pairOfValue item).here_eq place) items _ 0
  | _ => exact (AtRoot.refuse Reason.valuesShape).here_eq location

end Lists

/-! ### One level of reading -/

section Levels

variable (location : String) (value : Value) (readers : Readers (sizeOf · < sizeOf value))

def batchAt : Reporting Batch :=
  match h : batchItems value with
  | .error fault => .error ⟨location, fault.reason⟩
  | .ok items =>
    itemsAt location .statement (readers .statement) 0 items (sizeOf_lt_of_batchItems h)

def rowAt : Reporting (List (String × Expr)) :=
  match h : pairsAt location value with
  | .error report => .error report
  | .ok pairs =>
    cellsAt readers location pairs <| sizeOf_lt_of_spellsPairs <| pairsOfValue_eq_ok_iff.mp <|
      reportedAt_eq_ok_iff.mp <| (pairsAt_eq location value).symm.trans h

def pairAt : Reporting (String × Expr) :=
  match h : pairOfValue value with
  | .error fault => .error ⟨location, fault.reason⟩
  | .ok written =>
    cellAt readers location written (sizeOf_lt_of_spellsPair (pairOfValue_eq_ok_iff.mp h))

def listAt (position : Position) : Reporting (List position.Result) :=
  match h : value.content with
  | .list items => itemsAt location .index (readers position) 0 items (sizeOf_lt_of_mem_content h)
  | _ => .error ⟨location, .notAList⟩

/-- A mapping is asked for its keys by a form; anything else is a whole. -/
def Position.formAt (position : Position) (form : Form position.Result) :
    Reporting position.Result :=
  match h : value.content with
  | .mapping entries =>
    form.runAt readers location entries fun _ hvalue =>
      Nat.lt_trans hvalue (Value.sizeOf_lt_of_content_eq_mapping h)
  | _ => (position.read value).here location

/-- A value is read when there are readers for what stands inside it. -/
def Position.levelAt : (position : Position) → Reporting position.Result
  | batch => batchAt location value readers
  | row => rowAt location value readers
  | pair => pairAt location value readers
  | list position => listAt location value readers position
  | keyword => (keywordOfValue value).here location
  | statement => statement.formAt location value readers statementForm
  | select => select.formAt location value readers selectForm
  | conflict => conflict.formAt location value readers conflictForm
  | expression => expression.formAt location value readers expressionForm
  | column => column.formAt location value readers columnForm
  | table => table.formAt location value readers tableForm
  | identifier => identifier.formAt location value readers identifierForm

end Levels

/-- The reader of a position that is told where its value stands. -/
def Position.readAt (position : Position) (location : String) (value : Value) :
    Reporting position.Result :=
  position.levelAt location value fun part place inner _ => part.readAt place inner
termination_by sizeOf value

/-! ## Both ways report the same -/

/-- A key that has to be there is looked for in the mapping, and then its value is read. -/
theorem reportedAt_demanded (location : String) (entries : Entries) {key : String}
    {read : Value → Loading α}
    {readAt : { value : Value // sizeOf value < sizeOf entries } → Reporting α}
    (hread : ∀ found, readAt found = (read found.1).reportedAt location) :
    ((require entries key).here location >>= readAt) =
      (Question.demanded key read (entries.get? key)).reportedAt location := by
  rw [demanded_eq, reportedAt_bind, (atRoot_require entries key).here_eq]
  exact bind_congr hread

section Agreement

variable {inside : Value → Prop} {readers : Readers inside}

/-- The readers report what is read from a value, at the place where it stands. -/
def Readers.Faithful (readers : Readers inside) : Prop :=
  ∀ (position : Position) (location : String) (value : Value) (h : inside value),
    readers position location value h = (position.read value).reportedAt location

variable (hreaders : readers.Faithful) (location : String)

include hreaders

section Mappings

variable (entries : Entries) (hinside : ∀ value, sizeOf value < sizeOf entries → inside value)

theorem Question.answerAt_eq (question : Question α) :
    question.answerAt readers location entries hinside =
      (question.answer (entries.get? question.key)).reportedAt location := by
  -- Texts, words and targets are not stepped into, so their faults are at the place of the reader.
  cases question with
  | text key =>
    exact reportedAt_demanded location entries fun found =>
      (atRoot_shown found.1).here_eq location
  | keyword key =>
    exact reportedAt_demanded location entries fun found =>
      (atRoot_keywordOfValue found.1).here_eq location
  | target key =>
    refine reportedAt_demanded location entries fun found => ?_
    rw [reportedAt_under]
    exact (atRoot_targetOfValue found.1).here_eq _
  | name key =>
    exact reportedAt_demanded location entries fun found =>
      hreaders .identifier location found.1 _
  | part key position =>
    refine reportedAt_demanded location entries fun found => ?_
    rw [reportedAt_under]
    exact hreaders position _ found.1 _
  | partIfAny key position =>
    -- The part is read at its key, and its fault has the key in front.
    rw [Question.key, answer_partIfAny, answerAt]
    cases optional entries key with
    | none => rfl
    | some found =>
      dsimp only
      rw [hreaders, reportedAt_bind, reportedAt_under]
      rfl
  | partIfPresent key position =>
    rw [answerAt]
    split
    · next hnone => rw [Question.key, hnone]; rfl
    · next value hsome =>
      rw [hreaders, Question.key, hsome, answer, reportedAt_bind, reportedAt_under]
      rfl
  | listIfPresent key position =>
    rw [answerAt]
    split
    · next hnone => rw [Question.key, hnone]; rfl
    · next value hsome =>
      rw [hreaders, Question.key, hsome, answer, reportedAt_under]
      rfl
  | textIfAny key =>
    rw [Question.key, answer_textIfAny, answerAt]
    exact (atRoot_textOrEmpty entries key).here_eq location
  | flag key =>
    rw [Question.key, answer_flag, answerAt, SchemaMigration.Document.flag]
    cases optional entries key with
    | none => rfl
    | some found =>
      dsimp only
      cases found.1.toFlag? with
      | some b => rfl
      | none =>
        rw [reportedAt_under]
        exact (AtRoot.refuse (Reason.notAFlag found.1)).here_eq _

theorem Form.runAt_eq (form : Form α) :
    form.runAt readers location entries hinside = (form.run entries).reportedAt location := by
  induction form with
  | done result => rfl
  | refuse reason => exact (AtRoot.refuse reason).here_eq location
  | ask question next ih =>
    rw [runAt, run, reportedAt_bind, question.answerAt_eq hreaders]
    exact bind_congr ih

end Mappings

theorem cellAt_eq (pair : Value × Value) (h : inside pair.2) :
    cellAt readers location pair h = (cellOfPair pair).reportedAt location := by
  rw [cellAt, cellOfPair, reportedAt_bind, (atRoot_shown pair.1).here_eq]
  refine bind_congr fun name => ?_
  rw [hreaders, reportedAt_bind, reportedAt_under]
  rfl

theorem cellsAt_eq (pairs : Entries) (h : ∀ pair ∈ pairs, inside pair.2) :
    cellsAt readers location pairs h = (rowOfPairs pairs).reportedAt location := by
  induction pairs with
  | nil => rfl
  | cons pair rest ih =>
    rw [cellsAt, rowOfPairs_cons, reportedAt_bind, cellAt_eq hreaders]
    refine bind_congr fun first => ?_
    rw [ih, reportedAt_bind]
    rfl

end Agreement

section Levels

variable (location : String) (value : Value) {readers : Readers (sizeOf · < sizeOf value)}
  (hreaders : readers.Faithful)

include hreaders

theorem batchAt_eq :
    batchAt location value readers = (Batch.ofValue value).reportedAt location := by
  rw [Batch.ofValue, reportedAt_bind, ← (atRoot_batchItems value).here_eq, batchAt]
  -- A fault of the list comes up at the place of the batch, and one of an item further in.
  split
  · next fault hfault =>
    rw [hfault]
    rfl
  · next items hitems =>
    refine Eq.trans (itemsAt_eq (hreaders .statement) items _ 0) ?_
    rw [hitems]
    show _ = (statementsOfItems 0 items).reportedAt location
    rw [statementsOfItems_eq_readItems]
    rfl

theorem rowAt_eq :
    rowAt location value readers =
      (pairsOfValue value >>= rowOfPairs).reportedAt location := by
  rw [reportedAt_bind, ← pairsAt_eq, rowAt]
  -- Pairs are taken apart at the place of the row, and their values are read further in.
  split
  · next report hreport =>
    rw [hreport]
    rfl
  · next pairs hpairs =>
    rw [cellsAt_eq hreaders, hpairs]
    rfl

theorem pairAt_eq :
    pairAt location value readers =
      (pairOfValue value >>= cellOfPair).reportedAt location := by
  rw [reportedAt_bind, ← (atRoot_pairOfValue value).here_eq, pairAt]
  split
  · next fault hfault =>
    rw [hfault]
    rfl
  · next written hwritten =>
    rw [cellAt_eq hreaders, hwritten]
    rfl

theorem listAt_eq (position : Position) :
    listAt location value readers position =
      (listOf position.read value).reportedAt location := by
  rw [listOf, listAt]
  split
  · next items hcontent =>
    rw [itemsAt_eq (hreaders position), hcontent]
  · next hcontent =>
    split
    · next items hlist => exact absurd hlist (hcontent items)
    · exact (AtRoot.refuse Reason.notAList).here_eq location

theorem Position.formAt_eq {position : Position} {form : Form position.Result}
    (hform : position.form? = some form) :
    position.formAt location value readers form =
      (position.read value).reportedAt location := by
  unfold formAt
  split
  · next entries hcontent =>
    rw [Form.runAt_eq hreaders, read_eq_run hform hcontent]
  · next hcontent => exact (atRoot_read_of_not_mapping hform hcontent).here_eq location

/-- **One level.** Reading a value by faithful readers of what stands inside it is faithful. -/
theorem Position.levelAt_eq (position : Position) :
    position.levelAt location value readers = (position.read value).reportedAt location := by
  -- Four positions have a reader of their own; the others ask a mapping for its keys.
  cases position with
  | batch => exact batchAt_eq location value hreaders
  | row => exact rowAt_eq location value hreaders
  | pair => exact pairAt_eq location value hreaders
  | list position => exact listAt_eq location value hreaders position
  | keyword => exact (atRoot_keywordOfValue value).here_eq location
  | statement => exact formAt_eq location value hreaders rfl
  | select => exact formAt_eq location value hreaders rfl
  | conflict => exact formAt_eq location value hreaders rfl
  | expression => exact formAt_eq location value hreaders rfl
  | column => exact formAt_eq location value hreaders rfl
  | table => exact formAt_eq location value hreaders rfl
  | identifier => exact formAt_eq location value hreaders rfl

end Levels

/-- **Every level.** A reader that is told its place reports what is read without it, from there. -/
theorem Position.readAt_eq (position : Position) (location : String) (value : Value) :
    position.readAt location value = (position.read value).reportedAt location := by
  rw [readAt]
  exact levelAt_eq location value (fun part place inner h => part.readAt_eq place inner) position
termination_by sizeOf value

end Document

end SchemaMigration
