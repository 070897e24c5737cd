import SchemaMigration.Proofs.RefusedPart

/-!
# Keys that hold null, and keys that are left out

Of the keys that a mapping need not have, most count as left out when they hold null
(`Document.Position.Optional`). A list that a mapping need not have is different: null under its key
is no list (`Document.Position.OptionalList`).

Both are a matter of single questions. A question that takes null for nothing is answered as if the
key were not there (`Document.Question.answer_null`), and the question for a list is answered with a
refusal. From there it takes the rules for changes inside a value: dropping a null key of the first
sort, wherever it stands, changes nothing in how a statement is read, and with one of the second
sort the statement is refused (`Statement.null_or_absent`).
-/

namespace SchemaMigration

open Document

/-! ## Keys that may be left out -/

/-- The keys of a statement of the kind under which null counts as nothing. -/
def StatementKind.optionalKeys : StatementKind → List String
  | create => ["create", "if_not_exists"]
  | insert => ["on_conflict"]
  | update => ["where"]
  | select => ["where"]
  | _ => []

/-- The keys of an expression of the kind under which null counts as nothing. -/
def ExprKind.optionalKeys : ExprKind → List String
  | references => ["column", "on_delete", "on_update"]
  | addColumn => ["if_not_exists"]
  | _ => []

/-- The keys of an expression of the kind under which a list may stand. -/
def ExprKind.listKeys : ExprKind → List String
  | column => ["constraints"]
  | tableBody => ["fields"]
  | _ => []

namespace Document

/-- The mapping in the position may leave out the key, and null counts as nothing under it. -/
inductive Position.Optional (entries : Entries) : Position → String → Prop where
  | statement {kind : StatementKind} {key : String} (hkind : kindText entries = .ok kind.name)
      (hkey : key ∈ kind.optionalKeys) : Position.Optional entries .statement key
  | expression {kind : ExprKind} {key : String} (hkind : kindText entries = .ok kind.name)
      (hkey : key ∈ kind.optionalKeys) : Position.Optional entries .expression key
  | condition : Position.Optional entries .select "where"
  | shortName {name : Value} (hname : entries.get? "table" = some name) :
      Position.Optional entries .table "alias"
  | container : Position.Optional entries .identifier "container"
  | containerOfTable (hname : entries.get? "table" = none) :
      Position.Optional entries .table "container"

/-- The mapping in the position may leave out the key, and a list stands under it if it does not. -/
inductive Position.OptionalList (entries : Entries) : Position → String → Prop where
  | expression {kind : ExprKind} {key : String} (hkind : kindText entries = .ok kind.name)
      (hkey : key ∈ kind.listKeys) : Position.OptionalList entries .expression key
  | constraints : Position.OptionalList entries .column "constraints"
  | assignments : Position.OptionalList entries .conflict "set"

/-- The first value is a mapping with null under such a key, and the second one the mapping without
the key. -/
inductive NullDropped (optional : Entries → Position → String → Prop) :
    Position → Value → Value → Prop where
  | drop {position : Position} {value value' : Value} {before after : Entries} {key : String}
      (hcontent : value.content = .mapping (before ++ (.text key, .null) :: after))
      (hcontent' : value'.content = .mapping (before ++ after))
      (habsent : Entries.get? (before ++ after) key = none)
      (hoptional : optional (before ++ after) position key) :
      NullDropped optional position value value'

variable {α : Type} {excused : Reason → Prop}

/-! ## Null as the answer to a question -/

namespace Question

/-- The question takes null for nothing. -/
def IgnoresNull : Question α → Prop
  | partIfPresent _ _ => False
  | listIfPresent _ _ => False
  | _ => True

theorem answer_null {question : Question α} (h : question.IgnoresNull) :
    question.answer (some .null) = question.answer none := by
  cases question with
  | partIfPresent _ _ => cases h
  | listIfPresent _ _ => cases h
  | _ => rfl

/-- Under the key the question ends alike for null and for nothing, or it is about another key. -/
def NullAlike (excused : Reason → Prop) (key : String) (question : Question α) : Prop :=
  question.key = key → AlikeBut excused (question.answer (some .null)) (question.answer none)

theorem IgnoresNull.nullAlike {question : Question α} (h : question.IgnoresNull) (key : String) :
    question.NullAlike excused key := by
  intro _
  rw [answer_null h]
  exact .refl _

/-- For a list that may be left out, null is refused. -/
theorem nullAlike_listIfPresent (key name : String) (position : Position) :
    (listIfPresent name position).NullAlike (· = .notAList) key :=
  fun _ => .inr ⟨_, rfl, rfl⟩

/-- The question has no answer when the key holds null. -/
def RefusesNull (question : Question α) : Prop :=
  ∀ answer, question.answer (some .null) ≠ .ok answer

theorem refusesNull_part (key : String) (position : Position) :
    (part key position).RefusesNull := nofun

theorem refusesNull_listIfPresent (key : String) (position : Position) :
    (listIfPresent key position).RefusesNull := nofun

end Question

end Document

theorem StatementKind.ignoresNull_form (kind : StatementKind) :
    kind.form.All Question.IgnoresNull := by
  cases kind <;>
    simp [StatementKind.form, selectForm, Form.map, Form.All, Question.IgnoresNull]

theorem ExprKind.ignoresNull_form {kind : ExprKind} {key : String}
    (hkey : key ∈ kind.optionalKeys) : kind.form.All Question.IgnoresNull := by
  cases kind <;> simp [ExprKind.optionalKeys] at hkey
  all_goals simp [ExprKind.form, Form.All, Question.IgnoresNull]

namespace Document

/-- Null is read as a name only where the name of a table stands. -/
theorem nullAlike_tableForm {key : String} (hkey : key ≠ "table") :
    tableForm.All (Question.NullAlike excused key) := by
  -- Both the table and the name in its place take null for nothing under any other key.
  have hname : identifierForm.All (Question.NullAlike excused key) := by
    have hform : identifierForm.All Question.IgnoresNull := by
      simp [identifierForm, Form.All, Question.IgnoresNull]
    exact hform.mono fun _ h => h.nullAlike key
  have hshort : (Question.textIfAny "alias").IgnoresNull := trivial
  refine ⟨fun h => absurd h.symm hkey, fun table => ?_⟩
  -- Which questions follow depends on whether a table was given.
  cases table with
  | none => exact hname.map _
  | some table => exact ⟨hshort.nullAlike key, fun _ => trivial⟩

section Asked

variable {entries : Entries} {position : Position} {key : String}

/-- The key is no kind, and each question of the form ends alike for null under the key and for
nothing. -/
def Position.AsksNullAlike (excused : Reason → Prop) (entries : Entries) (position : Position)
    (key : String) : Prop :=
  key ≠ "kind" ∧ ∃ form, position.Asks entries form ∧ form.All (Question.NullAlike excused key)

theorem Position.Optional.asksNullAlike (h : position.Optional entries key) :
    position.AsksNullAlike excused entries key := by
  -- One case for each place that has keys of this sort; none of them is the key of the kind.
  cases h with
  | @statement kind _ hkind hkey =>
    refine ⟨?_, _, .statement hkind, kind.ignoresNull_form.mono fun _ h => h.nullAlike key⟩
    rintro rfl
    cases kind <;> simp [StatementKind.optionalKeys] at hkey
  | @expression kind _ hkind hkey =>
    refine ⟨?_, _, .expression hkind,
      (ExprKind.ignoresNull_form hkey).mono fun _ h => h.nullAlike key⟩
    rintro rfl
    cases kind <;> simp [ExprKind.optionalKeys] at hkey
  | condition =>
    have hform : selectForm.All Question.IgnoresNull := by
      simp [selectForm, Form.All, Question.IgnoresNull]
    exact ⟨by decide, _, .select, hform.mono fun _ h => h.nullAlike "where"⟩
  | container =>
    have hform : identifierForm.All Question.IgnoresNull := by
      simp [identifierForm, Form.All, Question.IgnoresNull]
    exact ⟨by decide, _, .identifier, hform.mono fun _ h => h.nullAlike "container"⟩
  | shortName _ => exact ⟨by decide, _, .table, nullAlike_tableForm (by decide)⟩
  | containerOfTable _ => exact ⟨by decide, _, .table, nullAlike_tableForm (by decide)⟩

theorem nullAlike_columnForm (key : String) :
    columnForm.All (Question.NullAlike (· = .notAList) key) := by
  have hname : (Question.part "name" .identifier).IgnoresNull := trivial
  have htype : (Question.part "type" .identifier).IgnoresNull := trivial
  exact ⟨hname.nullAlike key, fun _ => ⟨htype.nullAlike key, fun _ =>
    ⟨Question.nullAlike_listIfPresent key "constraints" .expression, fun _ => trivial⟩⟩⟩

theorem Position.OptionalList.asksNullAlike (h : position.OptionalList entries key) :
    position.AsksNullAlike (· = .notAList) entries key := by
  -- The key of the list is the one that the question is about, so null is not passed over there.
  cases h with
  | @expression kind _ hkind hkey =>
    cases kind <;> simp [ExprKind.listKeys] at hkey <;> subst hkey
    case column =>
      exact ⟨by decide, _, .expression hkind, (nullAlike_columnForm "constraints").map _⟩
    case tableBody =>
      exact ⟨by decide, _, .expression hkind,
        Question.nullAlike_listIfPresent "fields" "fields" .column, fun _ => trivial⟩
  | constraints => exact ⟨by decide, _, .column, nullAlike_columnForm "constraints"⟩
  | assignments =>
    have hcause : (Question.part "cause" .expression).IgnoresNull := trivial
    exact ⟨by decide, _, .conflict, hcause.nullAlike "set", fun _ =>
      ⟨Question.nullAlike_listIfPresent "set" "set" .expression, fun _ => trivial⟩⟩

/-- The mapping cannot be read without an answer to a question about the key, and there is none when
the key holds null. -/
def Position.RefusesNull (entries : Entries) (position : Position) (key : String) : Prop :=
  ∃ form, position.Asks entries form ∧ form.AsksFor key ∧ form.All Question.RefusesNull

theorem refusesNull_columnForm : columnForm.All Question.RefusesNull :=
  ⟨Question.refusesNull_part "name" .identifier, fun _ =>
    ⟨Question.refusesNull_part "type" .identifier, fun _ =>
      ⟨Question.refusesNull_listIfPresent "constraints" .expression, fun _ => trivial⟩⟩⟩

theorem asksFor_columnForm : columnForm.AsksFor "constraints" :=
  .inr fun _ => .inr fun _ => .inl rfl

theorem Position.OptionalList.refusesNull (h : position.OptionalList entries key) :
    position.RefusesNull entries key := by
  cases h with
  -- In each place the question for the list is asked before there is a result.
  | @expression kind _ hkind hkey =>
    cases kind <;> simp [ExprKind.listKeys] at hkey <;> subst hkey
    case column =>
      exact ⟨_, .expression hkind, Form.asksFor_map.mpr asksFor_columnForm,
        refusesNull_columnForm.map _⟩
    case tableBody =>
      exact ⟨_, .expression hkind, .inl rfl,
        Question.refusesNull_listIfPresent "fields" .column, fun _ => trivial⟩
  | constraints => exact ⟨_, .column, asksFor_columnForm, refusesNull_columnForm⟩
  | assignments =>
    exact ⟨_, .conflict, .inr fun _ => .inl rfl, Question.refusesNull_part "cause" .expression,
      fun _ => ⟨Question.refusesNull_listIfPresent "set" .expression, fun _ => trivial⟩⟩

end Asked

/-! ## Dropping the key -/

theorem get?_null_of_absent {before after : Entries} {key : String}
    (habsent : Entries.get? (before ++ after) key = none) :
    Entries.get? (before ++ (.text key, .null) :: after) key = some .null := by
  rw [Entries.get?_append, Option.or_eq_none_iff] at habsent
  exact Entries.get?_append_cons_self .null after habsent.1

/-- Nothing else is found or missed for the null. -/
theorem get?_null_of_ne {key name : String} (before after : Entries) (hname : key ≠ name) :
    Entries.get? (before ++ (.text key, .null) :: after) name =
      Entries.get? (before ++ after) name := by
  rw [Entries.get?_append, Entries.get?_append]
  simp [Entries.get?, Value.isText, hname]

theorem kindText_null_of_ne {key : String} (before after : Entries) (hkey : key ≠ "kind") :
    kindText (before ++ (.text key, .null) :: after) = kindText (before ++ after) :=
  kindText_eq_of_get?_eq (get?_null_of_ne before after hkey)

theorem Position.Asks.alike {position : Position} {entries : Entries} {form : Form position.Result}
    {value value' : Value} (hasks : position.Asks entries form)
    (h : AlikeBut excused (position.read value) (position.read value')) :
    position.Alike excused value value' := by
  cases hasks <;> exact h

theorem keepsAlike_nullDropped {optional : Entries → Position → String → Prop}
    (hoptional : ∀ {entries position key}, optional entries position key →
      Position.AsksNullAlike excused entries position key) :
    KeepsAlike excused (NullDropped optional) where
  isNull_left h := by
    obtain ⟨hcontent, _, _, _⟩ := h
    exact isNull_of_content_mapping hcontent
  isNull_right h := by
    obtain ⟨_, hcontent', _, _⟩ := h
    exact isNull_of_content_mapping hcontent'
  not_keyword value value' h := by
    obtain ⟨_, _, _, h⟩ := h
    -- The key of a kind is not optional.
    obtain ⟨_, _, hasks, _⟩ := hoptional h
    cases hasks
  alike h := by
    cases h with
    | @drop before after key hcontent hcontent' habsent h =>
      obtain ⟨hkey, form, hasks, hform⟩ := hoptional h
      have hasks' := hasks.of_kind_eq (kindText_null_of_ne before after hkey).symm
      refine hasks.alike ?_
      rw [hasks'.read_eq_run hcontent, hasks.read_eq_run hcontent']
      -- Only a question about the dropped key finds something else.
      refine Form.alike_run (hform.mono fun question hquestion => ?_)
      by_cases hname : key = question.key
      · subst hname
        rw [get?_null_of_absent habsent, habsent]
        exact hquestion rfl
      · rw [get?_null_of_ne before after hname]
        exact .refl _

/-- With null for the list, the mapping is refused. -/
theorem not_readAs_of_nullDropped {position : Position} {value value' : Value}
    (h : NullDropped Position.OptionalList position value value') (result : position.Result) :
    ¬position.ReadAs value result := by
  cases h with
  | @drop before after key hcontent _ habsent h =>
    obtain ⟨form, hasks, hneeded, hform⟩ := h.refusesNull
    have hasks' := hasks.of_kind_eq (kindText_null_of_ne before after h.asksNullAlike.1).symm
    intro hread
    have hrun : position.read value = .ok result := by
      cases hasks <;> exact hread
    rw [hasks'.read_eq_run hcontent] at hrun
    obtain ⟨_, question, answer, rfl, hrefuses, hanswer⟩ := Form.exists_answer hneeded hform hrun
    rw [get?_null_of_absent habsent] at hanswer
    exact hrefuses answer hanswer

/-- A list that may be left out stands in a mapping. -/
theorem not_nullDropped_list {optional : Entries → Position → String → Prop} {position : Position}
    {value value' : Value}
    (hoptional : ∀ {entries position key}, optional entries position key →
      Position.AsksNullAlike excused entries position key) :
    ¬NullDropped optional (.list position) value value' := by
  rintro ⟨_, _, _, h⟩
  obtain ⟨_, _, hasks, _⟩ := hoptional h
  cases hasks

end Document

/-! ## Statements -/

variable {document document' : Value}

theorem Statement.ofValue_eq_of_nullDropped
    (h : Within (NullDropped Position.Optional) .statement document document') :
    ofValue document = ofValue document' := by
  have hkeeps : KeepsAlike (fun _ => False) (NullDropped Position.Optional) :=
    keepsAlike_nullDropped Position.Optional.asksNullAlike
  rcases (h.alike hkeeps).2.2.alikeBut with hsame | ⟨_, _, hexcused⟩
  · exact hsame
  · exact hexcused.elim

theorem Statement.refused_of_nullDropped
    (h : Within (NullDropped Position.OptionalList) .statement document document') :
    ∃ fault, ofValue document = .error fault ∧
      (fault.reason = .notAList ∨ ofValue document' = .error fault) := by
  have hkeeps : KeepsAlike (· = .notAList) (NullDropped Position.OptionalList) :=
    keepsAlike_nullDropped Position.OptionalList.asksNullAlike
  -- The statement reads as without the key, or it is refused since there is no list.
  rcases (h.alike hkeeps).2.2.alikeBut with hsame | ⟨fault, hfault, hreason⟩
  · cases hread : ofValue document with
    | error fault => exact ⟨fault, rfl, .inr (hsame.symm.trans hread)⟩
    | ok statement =>
      -- It cannot be read, since no value is read with a null in the place of the list.
      have hrefused := h.refused hkeeps
        (not_nullDropped_list Position.OptionalList.asksNullAlike) not_readAs_of_nullDropped
      exact absurd hread (hrefused statement)
  · exact ⟨fault, hfault, .inl hreason⟩

/-- **Null keys.** Wherever a key that may be left out stands in a document, null under it is read
as if the key were not there. Only a list that may be left out may not be null: the document is
refused then, with that fault or with one that it has without the key as well. -/
theorem Statement.null_or_absent :
    (Within (NullDropped Position.Optional) .statement document document' →
        ofValue document = ofValue document') ∧
      (Within (NullDropped Position.OptionalList) .statement document document' →
        ∃ fault, ofValue document = .error fault ∧
          (fault.reason = .notAList ∨ ofValue document' = .error fault)) :=
  ⟨ofValue_eq_of_nullDropped, refused_of_nullDropped⟩

/-- The definition of a column with the given other keys. -/
def idColumn (others : List (String × Value)) : Value :=
  .mapping (Entries.ofFields (("name", .text "id") :: ("type", .text "bigint") :: others))

/-- The column is added to a table. -/
def addIdEntries (column : Value) (others : List (String × Value)) : Entries :=
  Entries.ofFields (("kind", .text "add_column") :: ("field", column) :: others)

def alterUsersEntries (action : Value) : Entries :=
  Entries.ofFields [("kind", .text "alter"), ("target", .text "table"),
    ("name", .text "app.users"), ("alter", action)]

def alterUsers (column others : List (String × Value)) : Value :=
  .mapping (alterUsersEntries (.mapping (addIdEntries (idColumn column) others)))

theorem kindText_addIdEntries (column : Value) (others : List (String × Value)) :
    kindText (addIdEntries column others) = .ok ExprKind.addColumn.name :=
  kindText_ofFields (ExprKind.lower_name .addColumn) _

theorem kindText_alterUsersEntries (action : Value) :
    kindText (alterUsersEntries action) = .ok StatementKind.alter.name :=
  kindText_ofFields (StatementKind.lower_name .alter) _

theorem Statement.ofValue_alterUsers :
    ofValue (alterUsers [] []) = .ok (.alter .table (.name "app.users")
      (.addColumn (.define (.name "id") (.name "bigint") []) false)) := by
  -- The definition is read by its form, then the action, then the statement around it.
  have hcolumn : Column.ofValue (idColumn []) = .ok (.define (.name "id") (.name "bigint") []) := by
    have hcontent : (idColumn []).content =
        .mapping (Entries.ofFields [("name", .text "id"), ("type", .text "bigint")]) := rfl
    show Position.column.read (idColumn []) = _
    rw [Position.Asks.column.read_eq_run hcontent]
    rfl
  have haction : Expr.ofValue (.mapping (addIdEntries (idColumn []) [])) =
      .ok (.addColumn (.define (.name "id") (.name "bigint") []) false) := by
    rw [Expr.ofValue_eq_run rfl, expressionForm_run_of_kind (kindText_addIdEntries _ _)]
    show (Column.ofValue (idColumn [])).under _ >>= _ = _
    rw [hcolumn]
    rfl
  rw [alterUsers, Statement.ofValue_eq_run rfl,
    statementForm_run_of_kind (kindText_alterUsersEntries _)]
  show (Expr.ofValue (.mapping (addIdEntries (idColumn []) []))).under _ >>= _ = _
  rw [haction]
  rfl

/-- A null flag is not set, and null is no list of constraints. -/
theorem Statement.null_or_absent_addColumn :
    ofValue (alterUsers [] [("if_not_exists", .null)]) = .ok (.alter .table (.name "app.users")
        (.addColumn (.define (.name "id") (.name "bigint") []) false)) ∧
      ∃ fault, ofValue (alterUsers [("constraints", .null)] []) = .error fault ∧
        fault.reason = .notAList := by
  -- Both keys stand inside the action, the one in it and the other one in the definition.
  have hflag : Within (NullDropped Position.Optional) .statement
      (alterUsers [] [("if_not_exists", .null)]) (alterUsers [] []) :=
    @Within.part _ _ _ _ _ _ _ _ (alterUsersEntries .null).dropLast [] "alter" rfl rfl rfl
      (.statement (kindText_alterUsersEntries _)) rfl
      (.here (@NullDropped.drop _ _ _ _ (addIdEntries (idColumn []) []) [] "if_not_exists"
        rfl rfl rfl (.expression (kindText_addIdEntries (idColumn []) []) (by decide))))
  have hlist : Within (NullDropped Position.OptionalList) .statement
      (alterUsers [("constraints", .null)] []) (alterUsers [] []) :=
    @Within.part _ _ _ _ _ _ _ _ (alterUsersEntries .null).dropLast [] "alter" rfl rfl rfl
      (.statement (kindText_alterUsersEntries _)) rfl
      (@Within.part _ _ _ _ _ _ _ _ (addIdEntries .null []).dropLast [] "field" rfl rfl rfl
        (.expression (kindText_addIdEntries (idColumn [("constraints", .null)]) [])) rfl
        (.here (@NullDropped.drop _ _ _ _ (Entries.ofFields [("name", .text "id"),
          ("type", .text "bigint")]) [] "constraints" rfl rfl rfl .constraints)))
  refine ⟨(null_or_absent.1 hflag).trans ofValue_alterUsers, ?_⟩
  obtain ⟨fault, hfault, hreason | hplain⟩ := null_or_absent.2 hlist
  · exact ⟨fault, hfault, hreason⟩
  · cases ofValue_alterUsers.symm.trans hplain

end SchemaMigration
