import SchemaMigration.Proofs.Display
import SchemaMigration.Proofs.Interchange

/-!
# What a reader asks of a mapping

A reader that is given a mapping never looks at it as a whole. It asks for one key after the other,
and which key comes next depends on nothing but the answers so far. A question (`Document.Question`)
is a key and a way to read what is found there; a form (`Document.Form`) is the questions of one
reader in their order, up to a result or a refusal. Running a form answers its questions from a
mapping.

Each reader of mappings runs a form: of an identifier, a table, a column definition, an expression
of a kind, a conflict clause, a select, a statement of a kind (`Document.Position.read_eq_run`).
What holds of every answer then holds of every reader by one induction over forms, whatever the
kinds and their keys are.
-/

namespace SchemaMigration

namespace Document

variable {α β : Type}

/-- The steps of a reader that steps into a part are taken inside that part. -/
theorem Loading.under_bind (step : Step) (first : Loading α) (next : α → Loading β) :
    (first >>= next).under step = first.under step >>= fun result => (next result).under step := by
  cases first <;> rfl

/-! ## Reading in a position -/

/-- A list is read item by item. -/
def listOf (read : Value → Loading α) (value : Value) : Loading (List α) :=
  match value.content with
  | .list items => readItems .index read 0 items
  | _ => Loading.refuse .notAList

/-- A field and its value, as one pair of a list writes them. -/
def pairOfValue : Value → Loading (Value × Value) :=
  ofMapping .pairNotMapping fun entries => do
    let field ← require entries "field"
    let value ← require entries "value"
    return (field.1, value.1)

/-- The name of a field with the expression of its value. -/
def cellOfPair (pair : Value × Value) : Loading (String × Expr) := do
  let name ← shown pair.1
  let expr ← (Expr.ofValue pair.2).under (.key name)
  return (name, expr)

/-- The reader of a position. -/
def Position.read : (position : Position) → Value → Loading position.Result
  | batch => Batch.ofValue
  | statement => Statement.ofValue
  | select => Select.ofValue
  | row => fun value => pairsOfValue value >>= rowOfPairs
  | pair => fun value => pairOfValue value >>= cellOfPair
  | conflict => conflictOfValue
  | expression => Expr.ofValue
  | column => Column.ofValue
  | table => TableRef.ofValue
  | identifier => Identifier.ofValue
  | keyword => keywordOfValue
  | list position => listOf position.read

/-! ## Questions -/

/-- A question about one key of a mapping, by the type of its answer. -/
inductive Question : Type → Type 1 where
  | text (key : String) : Question String
  | keyword (key : String) : Question String
  | target (key : String) : Question Target
  /-- A fault in this name counts as one of the mapping itself. -/
  | name (key : String) : Question Identifier
  | part (key : String) (position : Position) : Question position.Result
  /-- Null counts as absent. -/
  | partIfAny (key : String) (position : Position) : Question (Option position.Result)
  /-- Null is read like any other value. -/
  | partIfPresent (key : String) (position : Position) : Question (Option position.Result)
  /-- An absent list is empty, and null is no list. -/
  | listIfPresent (key : String) (position : Position) : Question (List position.Result)
  | textIfAny (key : String) : Question String
  | flag (key : String) : Question Bool

namespace Question

def key : Question α → String
  | text key => key
  | keyword key => key
  | target key => key
  | name key => key
  | part key _ => key
  | partIfAny key _ => key
  | partIfPresent key _ => key
  | listIfPresent key _ => key
  | textIfAny key => key
  | flag key => key

/-- What is found under a key that has to be there is read. -/
def demanded (key : String) (read : Value → Loading α) : Option Value → Loading α
  | none => Loading.refuse (.missing key)
  | some value => if value.isNull then Loading.refuse (.missing key) else read value

/-- The answer to a question, from what is found under its key. -/
def answer : Question α → Option Value → Loading α
  | text key, found => demanded key shown found
  | keyword key, found => demanded key keywordOfValue found
  | target key, found => demanded key (fun value => (Target.ofValue value).under (.key key)) found
  | name key, found => demanded key Identifier.ofValue found
  | part key position, found =>
    demanded key (fun value => (position.read value).under (.key key)) found
  | partIfAny _ _, none => .ok none
  | partIfAny key position, some value =>
    if value.isNull then .ok none else do return some (← (position.read value).under (.key key))
  | partIfPresent _ _, none => .ok none
  | partIfPresent key position, some value => do
    return some (← (position.read value).under (.key key))
  | listIfPresent _ _, none => .ok []
  | listIfPresent key position, some value => (listOf position.read value).under (.key key)
  | textIfAny _, none => .ok ""
  | textIfAny _, some value => if value.isTruthy then shown value else .ok ""
  | flag _, none => .ok false
  | flag key, some value =>
    if value.isNull then .ok false
    else
      match value.toFlag? with
      | some b => .ok b
      | none => (Loading.refuse (.notAFlag value)).under (.key key)

end Question

/-! ## Forms -/

/-- Questions that are asked one after the other. -/
inductive Form (α : Type) : Type 1 where
  | done (result : α) : Form α
  | refuse (reason : Reason) : Form α
  | ask {β : Type} (question : Question β) (next : β → Form α) : Form α

namespace Form

/-- The same questions with another result. -/
def map (f : α → β) : Form α → Form β
  | done result => done (f result)
  | refuse reason => refuse reason
  | ask question next => ask question fun answer => (next answer).map f

/-- What comes out when the questions are answered from a mapping. -/
def run (entries : Entries) : Form α → Loading α
  | done result => .ok result
  | refuse reason => Loading.refuse reason
  | ask question next => do
    let answer ← question.answer (entries.get? question.key)
    (next answer).run entries

theorem run_map (f : α → β) (entries : Entries) (form : Form α) :
    (form.map f).run entries = form.run entries >>= fun result => .ok (f result) := by
  induction form with
  | done result => rfl
  | refuse reason => rfl
  | ask question next ih =>
    rw [map, run, run, bind_assoc]
    congr 1
    -- The rest of a form runs on the answer, so the hypothesis is for every answer.
    funext answer
    exact ih answer

/-- Every question that the form can come to has the property. -/
def All (P : ∀ {β : Type}, Question β → Prop) : Form α → Prop
  | done _ => True
  | refuse _ => True
  | ask question next => P question ∧ ∀ answer, (next answer).All P

theorem All.map {P : ∀ {γ : Type}, Question γ → Prop} {form : Form α} (h : form.All P)
    (f : α → β) : (form.map f).All P := by
  induction form with
  | done result => trivial
  | refuse reason => trivial
  | ask question next ih => exact ⟨h.1, fun answer => ih answer (h.2 answer)⟩

/-- The property of questions may be replaced by a weaker one. -/
theorem All.mono {P Q : ∀ {γ : Type}, Question γ → Prop}
    (hPQ : ∀ {γ : Type} (question : Question γ), P question → Q question) {form : Form α}
    (h : form.All P) : form.All Q := by
  induction form with
  | done result => trivial
  | refuse reason => trivial
  | ask question next ih => exact ⟨hPQ question h.1, fun answer => ih answer (h.2 answer)⟩

end Form

/-! ### The forms of the readers -/

def identifierForm : Form Identifier :=
  .ask (.text "name") fun name =>
  .ask (.textIfAny "container") fun container =>
  .done (if container = "" then .name name else .qualified container name)

def tableForm : Form TableRef :=
  .ask (.partIfPresent "table" .identifier) fun
    | some table => .ask (.textIfAny "alias") fun shortName => .done ⟨table, shortName⟩
    | none => identifierForm.map fun table => ⟨table, ""⟩

def columnForm : Form Column :=
  .ask (.part "name" .identifier) fun name =>
  .ask (.part "type" .identifier) fun dataType =>
  .ask (.listIfPresent "constraints" .expression) fun constraints =>
  .done (.define name dataType constraints)

def conflictForm : Form ConflictClause :=
  .ask (.part "cause" .expression) fun cause =>
  .ask (.listIfPresent "set" .expression) fun assignments =>
  .done ⟨cause, assignments⟩

def selectForm : Form Select :=
  .ask (.part "columns" (.list .expression)) fun columns =>
  .ask (.part "from" .table) fun source =>
  .ask (.partIfAny "where" .expression) fun condition =>
  .done ⟨columns, source, condition⟩

end Document

open Document

def ExprKind.form : ExprKind → Form Expr
  | literal => .ask (.text "text") fun text => .done (.literal text)
  | ident => .ask (.name "ident") fun name => .done (.ident name)
  | binary =>
    .ask (.part "left" .expression) fun left =>
    .ask (.text "operator") fun operator =>
    .ask (.part "right" .expression) fun right =>
    .done (.binary left operator right)
  | assign =>
    .ask (.part "field" .identifier) fun field =>
    .ask (.part "value" .expression) fun value =>
    .done (.assign field value)
  | references =>
    .ask (.part "table" .identifier) fun table =>
    .ask (.textIfAny "column") fun column =>
    .ask (.textIfAny "on_delete") fun onDelete =>
    .ask (.textIfAny "on_update") fun onUpdate =>
    .done (.references table column onDelete onUpdate)
  | column => columnForm.map .column
  | tableBody =>
    .ask (.listIfPresent "fields" .column) fun columns =>
    .done (.tableBody columns)
  | addColumn =>
    .ask (.part "field" .column) fun definition =>
    .ask (.flag "if_not_exists") fun ifNotExists =>
    .done (.addColumn definition ifNotExists)
  | dropColumn => .ask (.name "name") fun name => .done (.dropColumn name)
  | addConstraint =>
    .ask (.part "name" .identifier) fun name =>
    .ask (.part "body" .expression) fun body =>
    .done (.addConstraint name body)
  | renameTo => .ask (.name "new_name") fun name => .done (.renameTo name)

def StatementKind.form : StatementKind → Form Statement
  | alter =>
    .ask (.target "target") fun target =>
    .ask (.part "name" .identifier) fun name =>
    .ask (.part "alter" .expression) fun action =>
    .done (.alter target name action)
  | create =>
    .ask (.target "target") fun target =>
    .ask (.part "name" .identifier) fun name =>
    .ask (.partIfAny "create" .expression) fun body =>
    .ask (.flag "if_not_exists") fun ifNotExists =>
    .done (.create target name body ifNotExists)
  | drop =>
    .ask (.target "target") fun target =>
    .ask (.part "name" .identifier) fun name =>
    .done (.drop target name)
  | insert =>
    .ask (.part "values" .row) fun row =>
    .ask (.partIfAny "on_conflict" .conflict) fun onConflict =>
    .ask (.part "table" .table) fun table =>
    .done (.insert table row onConflict)
  | update =>
    .ask (.part "table" .table) fun table =>
    .ask (.part "set" (.list .expression)) fun assignments =>
    .ask (.partIfAny "where" .expression) fun condition =>
    .done (.update table assignments condition)
  | select => selectForm.map .select
  | withSelect =>
    .ask (.text "name") fun name =>
    .ask (.part "with" .select) fun inner =>
    .ask (.part "select" .select) fun outer =>
    .done (.withSelect name inner outer)

namespace Document

/-- The form of a mapping whose first key names the kind. -/
def expressionForm : Form Expr :=
  .ask (.keyword "kind") fun text =>
    match ExprKind.ofName? text with
    | some kind => kind.form
    | none => .refuse (.unknownExpressionKind text)

def statementForm : Form Statement :=
  .ask (.keyword "kind") fun text =>
    match StatementKind.ofName? text with
    | some kind => kind.form
    | none => .refuse (.unknownStatementKind text)

/-! ## Answers as steps of the readers -/

section Answers

variable {entries : Entries} {key : String}

theorem demanded_eq (read : Value → Loading α) :
    Question.demanded key read (entries.get? key) =
      require entries key >>= fun found => read found.1 := by
  unfold require
  split
  -- The key is there or not, and a null counts as missing.
  · next hnone =>
    have hfound : Question.demanded key read (entries.get? key) =
        Loading.refuse (.missing key) := by rw [hnone]; rfl
    rw [hfound]
    rfl
  · next value hsome =>
    have hfound : Question.demanded key read (entries.get? key) =
        if value.isNull then Loading.refuse (.missing key) else read value := by rw [hsome]; rfl
    rw [hfound]
    split <;> rfl

theorem answer_text :
    (Question.text key).answer (entries.get? key) =
      require entries key >>= fun found => shown found.1 :=
  demanded_eq shown

theorem answer_kind : (Question.keyword "kind").answer (entries.get? "kind") = kindText entries :=
  demanded_eq keywordOfValue

theorem answer_target :
    (Question.target "target").answer (entries.get? "target") = targetAt entries :=
  demanded_eq fun value => (Target.ofValue value).under (.key "target")

theorem answer_name :
    (Question.name key).answer (entries.get? key) =
      require entries key >>= fun found => Identifier.ofValue found.1 :=
  demanded_eq Identifier.ofValue

theorem answer_part (position : Position) :
    (Question.part key position).answer (entries.get? key) =
      require entries key >>= fun found => (position.read found.1).under (.key key) :=
  demanded_eq fun value => (position.read value).under (.key key)

/-- The two steps in which the values of an insert are read are one part. -/
theorem answer_row_bind (next : List (String × Expr) → Loading β) :
    (Question.part key .row).answer (entries.get? key) >>= next =
      require entries key >>= fun found =>
        (pairsOfValue found.1).under (.key key) >>= fun pairs =>
          (rowOfPairs pairs).under (.key key) >>= next := by
  rw [answer_part]
  show (require entries key >>= fun found =>
    (pairsOfValue found.1 >>= rowOfPairs).under (.key key)) >>= next = _
  simp only [Loading.under_bind, bind_assoc]

theorem answer_partIfAny (position : Position) :
    (Question.partIfAny key position).answer (entries.get? key) =
      match optional entries key with
      | none => .ok none
      | some value => do return some (← (position.read value.1).under (.key key)) := by
  -- What is null is answered like what is not there.
  split
  · next hnone =>
    rw [optional_eq_none_iff] at hnone
    cases hget : entries.get? key with
    | none => rfl
    | some value => rw [Question.answer, if_pos (hnone value hget)]
  · next found hfound =>
    obtain ⟨hget, hnull⟩ := optional_eq_some_iff.mp hfound
    rw [hget, Question.answer, hnull, if_neg Bool.false_ne_true]

/-- Going on with a list that may be absent. -/
theorem answer_listIfPresent_bind (position : Position) (next : List position.Result → Loading β) :
    (Question.listIfPresent key position).answer (entries.get? key) >>= next =
      optionalList entries key >>= fun found =>
        match found with
        | none => next []
        | some items =>
          (readItems .index position.read 0 items.1).under (.key key) >>= next := by
  unfold optionalList
  split
  -- Without the key there are no items.
  · next hnone =>
    have hanswer : (Question.listIfPresent key position).answer (entries.get? key) = .ok [] := by
      rw [hnone]
      rfl
    rw [hanswer]
    rfl
  · next value hsome =>
    have hanswer : (Question.listIfPresent key position).answer (entries.get? key) =
        (listOf position.read value).under (.key key) := by
      rw [hsome]
      rfl
    rw [hanswer]
    split
    -- The items are read one by one, and anything but a list is refused.
    · next items hcontent =>
      have hlist : listOf position.read value = readItems .index position.read 0 items := by
        rw [listOf, hcontent]
      rw [hlist]
      rfl
    · next hcontent =>
      have hlist : listOf position.read value = Loading.refuse .notAList := by
        rw [listOf]
        split
        · next items hcontent' => exact absurd hcontent' (hcontent items)
        · rfl
      rw [hlist]
      rfl

theorem answer_textIfAny :
    (Question.textIfAny key).answer (entries.get? key) = textOrEmpty entries key := by
  rw [textOrEmpty]
  cases entries.get? key <;> rfl

theorem answer_flag : (Question.flag key).answer (entries.get? key) = flag entries key := by
  unfold flag
  split
  · next hnone =>
    rw [optional_eq_none_iff] at hnone
    cases hget : entries.get? key with
    | none => rfl
    | some value => rw [Question.answer, if_pos (hnone value hget)]
  · next found hfound =>
    obtain ⟨hget, hnull⟩ := optional_eq_some_iff.mp hfound
    rw [hget]
    exact if_neg (Bool.eq_false_iff.mp hnull)

end Answers

theorem listOfValue_eq_listOf (value : Value) :
    Expr.listOfValue value = listOf Expr.ofValue value := by
  rw [Expr.listOfValue, listOf]
  cases value.content with
  | list items => exact Expr.ofItems_eq_readItems 0 items
  | _ => rfl

/-! ## Readers run their forms -/

section Readers

variable {value : Value} {entries : Entries}

theorem shown_eq_ok_ne_empty {text : String} (htruthy : value.isTruthy = true)
    (h : shown value = .ok text) : text ≠ "" := by
  rw [eq_display_of_shown h]
  exact Value.display_ne_empty htruthy

/-- Whether there is a container shows in its text, since the text of a value that counts as present
is never empty. -/
theorem identifierOfValue_eq_run (hcontent : value.content = .mapping entries) :
    Identifier.ofValue value = identifierForm.run entries := by
  -- The form asks for the name first and then for the container.
  simp only [identifierForm, Form.run, Question.key, answer_text, answer_textIfAny, bind_assoc]
  unfold Identifier.ofValue
  rw [hcontent]
  dsimp only
  congr 1
  funext name
  congr 1
  funext name
  unfold textOrEmpty
  -- A container counts if its text is not empty.
  cases entries.get? "container" with
  | none => rfl
  | some container =>
    dsimp only
    cases htruthy : container.isTruthy with
    | false => rfl
    | true =>
      rw [if_pos rfl, if_pos rfl]
      cases hshown : shown container with
      | error fault => rfl
      | ok text =>
        have hne : text ≠ "" := shown_eq_ok_ne_empty htruthy hshown
        show Except.ok _ = Except.ok _
        rw [if_neg hne]

theorem tableOfValue_eq_run (hcontent : value.content = .mapping entries) :
    TableRef.ofValue value = tableForm.run entries := by
  unfold TableRef.ofValue
  rw [hcontent, tableForm, Form.run]
  dsimp only [Question.key]
  cases hget : entries.get? "table" with
  -- Without a table the mapping is the name itself.
  | none =>
    show _ = (identifierForm.map _).run entries
    rw [Form.run_map, ← identifierOfValue_eq_run hcontent]
    rfl
  | some table =>
    simp only [Question.answer, Position.read, bind_assoc]
    congr 1
    funext name
    show _ = (Question.textIfAny "alias").answer (entries.get? "alias") >>= _
    rw [answer_textIfAny]
    rfl

theorem columnOfEntries_eq_run : Column.ofEntries entries = columnForm.run entries := by
  rw [Column.ofEntries]
  simp only [columnForm, Form.run, Question.key, answer_part, answer_listIfPresent_bind,
    identifierAt, Expr.ofItems_eq_readItems, bind_assoc]
  refine bind_congr fun _ => bind_congr fun name => ?_
  refine bind_congr fun _ => bind_congr fun dataType => ?_
  refine bind_congr fun constraints => ?_
  cases constraints <;> rfl

theorem conflictOfValue_eq_run (hcontent : value.content = .mapping entries) :
    conflictOfValue value = conflictForm.run entries := by
  rw [conflictOfValue, hcontent]
  simp only [conflictForm, Form.run, Question.key, answer_part, answer_listIfPresent_bind,
    Expr.ofItems_eq_readItems, bind_assoc]
  rfl

theorem selectOfEntries_eq_run : Select.ofEntries entries = selectForm.run entries := by
  rw [Select.ofEntries]
  simp only [selectForm, Form.run, Question.key, answer_part, answer_partIfAny, exprListAt,
    listOfValue_eq_listOf, tableAt, optionalExprAt, bind_assoc]
  rfl

end Readers

end Document

open Document

theorem Expr.ofEntries_eq_run {entries : Entries} (kind : ExprKind) :
    Expr.ofEntries entries kind = kind.form.run entries := by
  -- The readers go through the keys in the order in which the forms ask for them.
  cases kind <;> rw [Expr.ofEntries, ExprKind.form]
  case column =>
    rw [Form.run_map, columnOfEntries_eq_run]
    rfl
  case tableBody =>
    simp only [Form.run, Question.key, answer_listIfPresent_bind, Column.ofItems_eq_readItems]
    refine bind_congr fun columns => ?_
    cases columns <;> rfl
  all_goals
    simp only [Form.run, Question.key, answer_part, answer_text, answer_name, answer_textIfAny,
      answer_flag, identifierAt, bind_assoc]
    rfl

theorem Statement.ofEntries_eq_run {entries : Entries} (kind : StatementKind) :
    Statement.ofEntries entries kind = kind.form.run entries := by
  -- An insert reads its row, a select the whole mapping; all others are read key by key.
  cases kind <;> rw [Statement.ofEntries, StatementKind.form]
  case select =>
    rw [Form.run_map, selectOfEntries_eq_run]
    rfl
  case insert =>
    refine Eq.trans ?_ (answer_row_bind _).symm
    simp only [Form.run, Question.key, answer_part, answer_partIfAny, conflictAt, tableAt,
      bind_assoc]
    rfl
  all_goals
    simp only [Form.run, Question.key, answer_part, answer_text, answer_target, answer_partIfAny,
      answer_flag, identifierAt, tableAt, exprListAt, listOfValue_eq_listOf, optionalExprAt,
      selectAt_eq_require_under, bind_assoc]
    rfl

theorem Expr.ofValue_eq_run {value : Value} {entries : Entries}
    (hcontent : value.content = .mapping entries) :
    Expr.ofValue value = expressionForm.run entries := by
  rw [Expr.ofValue]
  -- Of the shapes of a value only the mapping agrees with its content.
  split <;> rename_i hother <;> rw [hcontent] at hother
  any_goals cases hother
  · show kindText entries >>= _ = (Question.keyword "kind").answer (entries.get? "kind") >>= _
    rw [answer_kind]
    refine bind_congr fun text => ?_
    dsimp only
    cases ExprKind.ofName? text with
    | none => rfl
    | some kind => exact Expr.ofEntries_eq_run kind
  · exact absurd rfl (hother entries)

theorem Statement.ofValue_eq_run {value : Value} {entries : Entries}
    (hcontent : value.content = .mapping entries) :
    Statement.ofValue value = statementForm.run entries := by
  rw [Statement.ofValue, hcontent]
  -- The kind is read first, and it picks the form.
  show kindText entries >>= _ = (Question.keyword "kind").answer (entries.get? "kind") >>= _
  rw [answer_kind]
  refine bind_congr fun text => ?_
  dsimp only
  cases StatementKind.ofName? text with
  | none => rfl
  | some kind => exact Statement.ofEntries_eq_run kind

namespace Document

theorem ofMapping_eq_of_content {α : Type} {reason : Reason} {read : Entries → Loading α}
    {value : Value} {entries : Entries} (hcontent : value.content = .mapping entries) :
    ofMapping reason read value = read entries := by
  rw [ofMapping, hcontent]

namespace Position

/-- The form that a mapping in the position is asked for, if the position takes mappings at all. -/
def form? : (position : Position) → Option (Form position.Result)
  | statement => some statementForm
  | select => some selectForm
  | conflict => some conflictForm
  | expression => some expressionForm
  | column => some columnForm
  | table => some tableForm
  | identifier => some identifierForm
  | batch => none
  | row => none
  | pair => none
  | keyword => none
  | list _ => none

variable {position : Position} {form : Form position.Result} {value : Value}

/-- **Readers run forms.** -/
theorem read_eq_run {entries : Entries} (hform : position.form? = some form)
    (hcontent : value.content = .mapping entries) : position.read value = form.run entries := by
  cases position with
  | statement =>
    cases hform
    exact Statement.ofValue_eq_run hcontent
  | select =>
    cases hform
    exact (ofMapping_eq_of_content hcontent).trans selectOfEntries_eq_run
  | conflict =>
    cases hform
    exact conflictOfValue_eq_run hcontent
  | expression =>
    cases hform
    exact Expr.ofValue_eq_run hcontent
  | column =>
    cases hform
    rw [read, Column.ofValue_eq_ofMapping, ofMapping_eq_of_content hcontent]
    exact columnOfEntries_eq_run
  | table =>
    cases hform
    exact tableOfValue_eq_run hcontent
  | identifier =>
    cases hform
    exact identifierOfValue_eq_run hcontent
  | batch => cases hform
  | row => cases hform
  | pair => cases hform
  | keyword => cases hform
  | list _ => cases hform

end Position

end Document

end SchemaMigration
