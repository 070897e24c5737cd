import SchemaMigration.Proofs.FaultPlace

/-!
# Whether the path of a fault leads to a value of the document

A step of a path goes to the value under a key or to an item of a list, and most paths lead from the
document to the value in which the fault lies. There is one exception. The values of an insert can
be a list of pairs, and a fault inside the value of such a pair is put under the name of its field,
as if the values were a mapping (`Document.Path.ByField`).

What a reader asks of a mapping is found under a key of it, so a form is left with good paths when
each of its questions is answered with good paths (`Document.Form.faultsIn_run`). By induction on
the size of a value every reader has good paths, the one of the values of an insert apart
(`Document.Position.faultsIn_read`); a statement has those as well, and none but those
(`Statement.faultsIn_ofValue`).
-/

namespace SchemaMigration

/-- What is found under a key is an entry of the mapping. -/
theorem Entries.mem_of_get? {entries : Entries} {key : String} {value : Value}
    (h : entries.get? key = some value) : (.text key, value) ∈ entries := by
  induction entries with
  | nil => cases h
  | cons entry rest ih =>
    obtain ⟨field, child⟩ := entry
    -- The key that is found is the text that is looked for.
    rw [Entries.get?] at h
    split at h
    · next hfield =>
      cases h
      have htext : field = .text key := by
        cases field with
        | text s => exact congrArg Value.text (of_decide_eq_true hfield)
        | _ => cases hfield
      rw [htext]
      exact List.mem_cons_self
    · exact List.mem_cons_of_mem _ (ih h)

namespace Document

variable {α β : Type}

/-! ## Following a path -/

/-- The steps of the path lead from the value to the one that is found. -/
inductive Path.Reaches : Path → Value → Value → Prop where
  | here (value : Value) : Path.Reaches [] value value
  | key {value field child found : Value} {entries : Entries} {name : String} {rest : Path}
      (hcontent : value.content = .mapping entries) (hmem : (field, child) ∈ entries)
      (hname : shown field = .ok name) (hrest : Path.Reaches rest child found) :
      Path.Reaches (.key name :: rest) value found
  | index {value child found : Value} {items : List Value} {i : Nat} {rest : Path}
      (hcontent : value.content = .list items) (hitem : items[i]? = some child)
      (hrest : Path.Reaches rest child found) : Path.Reaches (.index i :: rest) value found

/-- The path leads to a value that is there. -/
def Path.PointsInto (path : Path) (value : Value) : Prop :=
  ∃ found, path.Reaches value found

theorem Path.pointsInto_nil (value : Value) : Path.PointsInto [] value :=
  ⟨value, .here value⟩

theorem Path.PointsInto.key {value field child : Value} {entries : Entries} {name : String}
    {rest : Path} (hcontent : value.content = .mapping entries) (hmem : (field, child) ∈ entries)
    (hname : shown field = .ok name) (hrest : rest.PointsInto child) :
    Path.PointsInto (.key name :: rest) value := by
  obtain ⟨found, hfound⟩ := hrest
  exact ⟨found, .key hcontent hmem hname hfound⟩

theorem Path.PointsInto.index {value child : Value} {items : List Value} {i : Nat} {rest : Path}
    (hcontent : value.content = .list items) (hitem : items[i]? = some child)
    (hrest : rest.PointsInto child) : Path.PointsInto (.index i :: rest) value := by
  obtain ⟨found, hfound⟩ := hrest
  exact ⟨found, .index hcontent hitem hfound⟩

/-- The path goes on from the values of an insert, a list of pairs, by the name of a field to a
place inside the value of its pair. -/
inductive Path.ByField : Path → Value → Prop where
  | cell {values item : Value} {items : List Value} {pair : Value × Value} {name : String}
      {rest : Path} (hcontent : values.content = .list items) (hitem : item ∈ items)
      (hpair : SpellsPair item pair) (hname : shown pair.1 = .ok name)
      (hrest : rest.PointsInto pair.2) : Path.ByField (.key name :: rest) values

/-- The path goes into the values of an insert and there by the name of a field. -/
inductive Path.Strays : Path → Value → Prop where
  | insert {value values : Value} {entries : Entries} {rest : Path}
      (hcontent : value.content = .mapping entries)
      (hkind : kindText entries = .ok StatementKind.insert.name)
      (hvalues : entries.get? "values" = some values) (hrest : Path.ByField rest values) :
      Path.Strays (.key "values" :: rest) value

/-! ## Steps with good paths -/

namespace Loading

/-- The path of every fault with which the reading can end is good. -/
def FaultsIn (good : Path → Prop) (loading : Loading α) : Prop :=
  ∀ fault, loading = .error fault → good fault.path

theorem FaultsIn.ok (good : Path → Prop) (result : α) : FaultsIn good (.ok result) := nofun

theorem FaultsIn.refuse {good : Path → Prop} (hroot : good []) (reason : Reason) :
    FaultsIn good (Loading.refuse reason : Loading α) := by
  rintro fault ⟨⟩
  exact hroot

theorem AtRoot.faultsIn {good : Path → Prop} {loading : Loading α} (h : loading.AtRoot)
    (hroot : good []) : loading.FaultsIn good := by
  intro fault hfault
  rw [h fault hfault]
  exact hroot

theorem FaultsIn.mono {good good' : Path → Prop} {loading : Loading α}
    (h : loading.FaultsIn good) (hgood : ∀ path, good path → good' path) :
    loading.FaultsIn good' :=
  fun fault hfault => hgood fault.path (h fault hfault)

theorem FaultsIn.bind {good : Path → Prop} {first : Loading α} {next : α → Loading β}
    (hfirst : first.FaultsIn good) (hnext : ∀ result, first = .ok result →
      (next result).FaultsIn good) : (first >>= next).FaultsIn good := by
  cases first with
  | error cause =>
    rintro _ ⟨⟩
    exact hfirst cause rfl
  | ok result => exact hnext result rfl

theorem FaultsIn.under {good : Path → Prop} {loading : Loading α} {step : Step}
    (h : loading.FaultsIn fun rest => good (step :: rest)) :
    (loading.under step).FaultsIn good := by
  cases loading with
  | ok result => exact .ok good result
  | error cause =>
    rintro _ ⟨⟩
    exact h cause rfl

end Loading

open Loading

/-- The items of a list have good paths behind their indices. -/
theorem faultsIn_readItems {good : Path → Prop} {read : Value → Loading α} {items : List Value} :
    ∀ {i : Nat}, (∀ j item, items[j]? = some item →
      (read item).FaultsIn fun rest => good (.index (i + j) :: rest)) →
      (readItems .index read i items).FaultsIn good := by
  induction items with
  | nil => exact fun _ => .ok good []
  | cons first rest ih =>
    intro i h
    refine (FaultsIn.under (h 0 first rfl)).bind fun result _ => ?_
    -- In the rest of the list every item has moved up by one.
    refine (ih fun j item hitem => ?_).bind fun others _ => .ok good _
    rw [Nat.add_assoc, Nat.add_comm 1 j]
    exact h (j + 1) item hitem

/-! ## Questions and forms -/

/-- A form has good paths when all of its questions do. -/
theorem Form.faultsIn_run {good : Path → Prop} (hroot : good []) {entries : Entries}
    {form : Form α}
    (h : form.All fun question => (question.answer (entries.get? question.key)).FaultsIn good) :
    (form.run entries).FaultsIn good := by
  induction form with
  | done result => exact .ok good result
  | refuse reason => exact .refuse hroot reason
  -- A fault comes from the question or from what is asked after it.
  | ask question next ih =>
    obtain ⟨hquestion, hnext⟩ := h
    exact hquestion.bind fun answer _ => ih answer (hnext answer)

/-- Positions with good paths: those inside a statement, without the values of an insert. -/
def Position.Plain : Position → Prop
  | batch => False
  | statement => False
  | row => False
  | pair => False
  | list position => position.Plain
  | _ => True

/-- The question is about a text or about a part in a plain position. -/
def Question.Plain : Question α → Prop
  | part _ position => position.Plain
  | partIfAny _ position => position.Plain
  | partIfPresent _ position => position.Plain
  | listIfPresent _ position => position.Plain
  | _ => True

theorem plain_identifierForm : identifierForm.All Question.Plain :=
  ⟨trivial, fun _ => ⟨trivial, fun _ => trivial⟩⟩

theorem plain_tableForm : tableForm.All Question.Plain := by
  refine ⟨trivial, fun table => ?_⟩
  cases table with
  | none => exact plain_identifierForm.map _
  | some table => exact ⟨trivial, fun _ => trivial⟩

theorem plain_columnForm : columnForm.All Question.Plain :=
  ⟨trivial, fun _ => ⟨trivial, fun _ => ⟨trivial, fun _ => trivial⟩⟩⟩

theorem plain_conflictForm : conflictForm.All Question.Plain :=
  ⟨trivial, fun _ => ⟨trivial, fun _ => trivial⟩⟩

theorem plain_selectForm : selectForm.All Question.Plain :=
  ⟨trivial, fun _ => ⟨trivial, fun _ => ⟨trivial, fun _ => trivial⟩⟩⟩

end Document

open Document

theorem ExprKind.plain_form (kind : ExprKind) : kind.form.All Question.Plain := by
  cases kind with
  | column => exact plain_columnForm.map _
  | _ => simp [ExprKind.form, Form.All, Question.Plain, Position.Plain]

theorem StatementKind.plain_form {kind : StatementKind} (h : kind ≠ .insert) :
    kind.form.All Question.Plain := by
  cases kind with
  | select => exact plain_selectForm.map _
  | insert => exact absurd rfl h
  | _ => simp [StatementKind.form, Form.All, Question.Plain, Position.Plain]

namespace Document

theorem plain_expressionForm : expressionForm.All Question.Plain := by
  refine ⟨trivial, fun text => ?_⟩
  dsimp only
  cases ExprKind.ofName? text with
  | none => trivial
  | some kind => exact kind.plain_form

theorem Position.plain_form {position : Position} {form : Form position.Result}
    (hplain : position.Plain) (hform : position.form? = some form) :
    form.All Question.Plain := by
  -- Only positions with a form ask questions.
  cases position with
  | select => cases hform; exact plain_selectForm
  | conflict => cases hform; exact plain_conflictForm
  | expression => cases hform; exact plain_expressionForm
  | column => cases hform; exact plain_columnForm
  | table => cases hform; exact plain_tableForm
  | identifier => cases hform; exact plain_identifierForm
  | keyword => cases hform
  | list _ => cases hform
  | batch => cases hplain
  | statement => cases hplain
  | row => cases hplain
  | pair => cases hplain

/-! ## Every level -/

theorem faultsIn_demanded {good : Path → Prop} (hroot : good []) {key : String}
    {read : Value → Loading α} {found : Option Value}
    (hread : ∀ value, found = some value → (read value).FaultsIn good) :
    (Question.demanded key read found).FaultsIn good := by
  unfold Question.demanded
  split
  · exact .refuse hroot _
  · split
    · exact .refuse hroot _
    · exact hread _ rfl

section Mappings

variable {value : Value} {entries : Entries} (hcontent : value.content = .mapping entries)

include hcontent

/-- The path of a part goes on from its key. -/
theorem faultsIn_under_key {key : String} {child : Value} {loading : Loading α}
    (hget : entries.get? key = some child)
    (hchild : loading.FaultsIn fun path => path.PointsInto child) :
    (loading.under (.key key)).FaultsIn fun path => path.PointsInto value :=
  .under <| hchild.mono fun _ hrest => .key hcontent (Entries.mem_of_get? hget) rfl hrest

variable (ih : ∀ (position : Position) (child : Value), sizeOf child < sizeOf value →
  position.Plain → (position.read child).FaultsIn fun path => path.PointsInto child)

include ih

/-- A plain question is answered with paths that lead into the mapping. -/
theorem Question.faultsIn_answer {question : Question α} (hplain : question.Plain) :
    (question.answer (entries.get? question.key)).FaultsIn fun path => path.PointsInto value := by
  have hroot := Path.pointsInto_nil value
  -- A part is read from a smaller value, where the paths are good already.
  have hpart (key : String) (position : Position) (hposition : position.Plain) (child : Value)
      (hget : entries.get? key = some child) :
      ((position.read child).under (.key key)).FaultsIn fun path => path.PointsInto value := by
    have hsize : sizeOf child < sizeOf value :=
      Nat.lt_trans (Entries.sizeOf_get?_lt hget) (Value.sizeOf_lt_of_content_eq_mapping hcontent)
    exact faultsIn_under_key hcontent hget (ih position child hsize hposition)
  -- What is read as it stands can only be at fault itself; a part adds its key to the path.
  cases question with
  | text key =>
    exact faultsIn_demanded hroot fun child _ => (atRoot_shown child).faultsIn hroot
  | keyword key =>
    exact faultsIn_demanded hroot fun child _ => (atRoot_keywordOfValue child).faultsIn hroot
  | target key =>
    refine faultsIn_demanded hroot fun child hget => faultsIn_under_key hcontent hget ?_
    exact (atRoot_targetOfValue child).faultsIn (Path.pointsInto_nil child)
  | name key =>
    exact faultsIn_demanded hroot fun child _ => (atRoot_identifierOfValue child).faultsIn hroot
  | part key position => exact faultsIn_demanded hroot (hpart key position hplain)
  | partIfAny key position =>
    rw [Question.key]
    cases hget : entries.get? key with
    | none => exact .ok _ none
    | some child =>
      rw [answer]
      split
      · exact .ok _ none
      · exact (hpart key position hplain child hget).bind fun _ _ => .ok _ _
  | partIfPresent key position =>
    rw [Question.key]
    cases hget : entries.get? key with
    | none => exact .ok _ none
    | some child => exact (hpart key position hplain child hget).bind fun _ _ => .ok _ _
  | listIfPresent key position =>
    rw [Question.key]
    cases hget : entries.get? key with
    | none => exact .ok _ []
    | some child => exact hpart key (.list position) hplain child hget
  | textIfAny key =>
    rw [Question.key, answer_textIfAny]
    exact (atRoot_textOrEmpty entries key).faultsIn hroot
  | flag key =>
    rw [Question.key]
    cases hget : entries.get? key with
    | none => exact .ok _ false
    | some child =>
      rw [answer]
      split
      · exact .ok _ false
      · split
        · exact .ok _ _
        · exact faultsIn_under_key hcontent hget (.refuse (Path.pointsInto_nil child) _)

end Mappings

/-- **Paths lead into the value.** In every position inside a statement but that of the values of an
insert, the path of a fault leads to a value that is there. -/
theorem Position.faultsIn_read (value : Value) (position : Position) (hplain : position.Plain) :
    (position.read value).FaultsIn fun path => path.PointsInto value := by
  -- The value under a key is smaller, so the induction hypothesis covers every part.
  have ih (position : Position) (child : Value) (_ : sizeOf child < sizeOf value)
      (hposition : position.Plain) :
      (position.read child).FaultsIn fun path => path.PointsInto child :=
    Position.faultsIn_read child position hposition
  have hroot := Path.pointsInto_nil value
  -- A position with a form reads mappings by it and refuses anything else as a whole.
  have hform {position : Position} {form : Form position.Result} (hposition : position.Plain)
      (hform : position.form? = some form) :
      (position.read value).FaultsIn fun path => path.PointsInto value := by
    by_cases hmapping : ∃ entries, value.content = .mapping entries
    · obtain ⟨entries, hcontent⟩ := hmapping
      rw [read_eq_run hform hcontent]
      exact Form.faultsIn_run hroot <| (plain_form hposition hform).mono fun _ hquestion =>
        Question.faultsIn_answer hcontent ih hquestion
    · refine (atRoot_read_of_not_mapping hform fun entries hcontent => ?_).faultsIn hroot
      exact hmapping ⟨entries, hcontent⟩
  cases position with
  | list position =>
    show (listOf position.read value).FaultsIn _
    rw [listOf]
    split
    · next items hcontent =>
      refine faultsIn_readItems fun j item hitem => ?_
      have hsize := sizeOf_lt_of_mem_content hcontent item (List.mem_of_getElem? hitem)
      refine (ih position item hsize hplain).mono fun rest hrest => ?_
      rw [Nat.zero_add]
      exact .index hcontent hitem hrest
    · exact .refuse hroot _
  | keyword => exact (atRoot_keywordOfValue value).faultsIn hroot
  | select => exact hform hplain rfl
  | conflict => exact hform hplain rfl
  | expression => exact hform hplain rfl
  | column => exact hform hplain rfl
  | table => exact hform hplain rfl
  | identifier => exact hform hplain rfl
  | batch => cases hplain
  | statement => cases hplain
  | row => cases hplain
  | pair => cases hplain
termination_by sizeOf value

/-! ## The values of an insert -/

theorem faultsIn_rowOfPairs {good : Path → Prop} (hroot : good []) {pairs : Entries}
    (h : ∀ pair ∈ pairs, ∀ (name : String) (rest : Path), shown pair.1 = .ok name →
      rest.PointsInto pair.2 → good (.key name :: rest)) : (rowOfPairs pairs).FaultsIn good := by
  induction pairs with
  | nil => exact .ok good []
  | cons pair rest ih =>
    obtain ⟨hpair, hrest⟩ := List.forall_mem_cons.mp h
    rw [rowOfPairs]
    -- Each pair gives the text of its name, and then its value is read under that name.
    refine ((atRoot_shown pair.1).faultsIn hroot).bind fun name hname => ?_
    have hcell : ((Expr.ofValue pair.2).under (.key name)).FaultsIn good :=
      .under <| (Position.faultsIn_read pair.2 .expression trivial).mono fun path hpath =>
        hpair name path hname hpath
    exact hcell.bind fun _ _ => (ih hrest).bind fun _ _ => .ok good _

/-- A field of a mapping is a key of it. A pair of a list has an index, and only a fault of the pair
itself is found there. -/
theorem faultsIn_row (values : Value) :
    (pairsOfValue values >>= rowOfPairs).FaultsIn fun path =>
      path.PointsInto values ∨ path.ByField values := by
  have hroot := Path.pointsInto_nil values
  -- The pairs are collected first, and until then a fault has the index of its pair. The values of
  -- the fields are read when the shape of the values is forgotten.
  refine .bind ?_ fun pairs hpairs => ?_
  · unfold pairsOfValue
    split
    · exact .ok _ _
    · next items hcontent =>
      rw [pairsOfItems_eq_readItems]
      refine faultsIn_readItems fun j item hitem => (atRoot_pairOfValue item).faultsIn ?_
      rw [Nat.zero_add]
      exact .inl (.index hcontent hitem (Path.pointsInto_nil item))
    · exact .refuse (.inl hroot) _
  · refine faultsIn_rowOfPairs (.inl hroot) fun pair hpair name rest hname hrest => ?_
    cases pairsOfValue_eq_ok_iff.mp hpairs with
    | mapping hcontent => exact .inl (.key hcontent hpair hname hrest)
    | list hcontent hitems =>
      obtain ⟨item, hitem, hspells⟩ := exists_mem_of_forall₂ hitems hpair
      exact .inr (.cell hcontent hitem hspells hname hrest)

end Document

/-! ## Statements -/

theorem Statement.faultsIn_ofValue (value : Value) :
    (Statement.ofValue value).FaultsIn fun path => path.PointsInto value ∨ path.Strays value := by
  have hroot := Path.pointsInto_nil value
  by_cases hmapping : ∃ entries : Entries, value.content = .mapping entries
  -- A statement that is no mapping is at fault as a whole.
  case neg =>
    have hform : Position.statement.form? = some statementForm := rfl
    refine (atRoot_read_of_not_mapping hform ?_).faultsIn (.inl hroot)
    exact fun entries hcontent => hmapping ⟨entries, hcontent⟩
  obtain ⟨entries, hcontent⟩ := hmapping
  have hplain {γ : Type} (question : Question γ) (h : question.Plain) :
      (question.answer (entries.get? question.key)).FaultsIn fun path =>
        path.PointsInto value ∨ path.Strays value :=
    (Question.faultsIn_answer hcontent
      (fun position child _ => Position.faultsIn_read child position) h).mono
        fun _ hpath => .inl hpath
  rw [Statement.ofValue_eq_run hcontent, statementForm, Form.run]
  refine (hplain (.keyword "kind") trivial).bind fun text htext => ?_
  have hkind : kindText entries = .ok text := answer_kind.symm.trans htext
  cases hname : StatementKind.ofName? text with
  | none => exact .refuse (.inl hroot) _
  | some kind =>
    refine Form.faultsIn_run (.inl hroot) ?_
    -- The first question of an insert is about its values, and no other question of any kind is.
    by_cases hinsert : kind = .insert
    · subst hinsert
      rw [← StatementKind.ofName?_eq_some_iff.mp hname] at hkind
      refine ⟨faultsIn_demanded (.inl hroot) fun values hget => .under ?_, fun _ => ?_⟩
      · refine (faultsIn_row values).mono fun rest hrest => ?_
        cases hrest with
        | inl hrest => exact .inl (.key hcontent (Entries.mem_of_get? hget) rfl hrest)
        | inr hrest => exact .inr (.insert hcontent hkind hget hrest)
      · exact ⟨hplain _ trivial, fun _ => ⟨hplain _ trivial, fun _ => trivial⟩⟩
    · exact (StatementKind.plain_form hinsert).mono hplain

/-- **The place of a fault is in the document**, or it is that of a value of a pair, under the name
of the field of the pair. -/
theorem Statement.location_pointsInto {location : String} {document : Value} {report : Report}
    (h : Statement.readAt location document = .error report) :
    ∃ path : Path, report.location = location ++ path.render ∧
      (path.PointsInto document ∨ path.Strays document) := by
  rw [Statement.readAt_eq] at h
  obtain ⟨fault, hfault, rfl⟩ := Loading.reportedAt_eq_error_iff.mp h
  exact ⟨fault.path, rfl, Statement.faultsIn_ofValue document fault hfault⟩

/-- The entries of an insert of one field, whose values are a list of pairs. -/
def listedFieldEntries (value : Value) : Entries :=
  [(.text "kind", .text "insert"), (.text "table", .text "app.users"),
    (.text "values", .list [.mapping [(.text "field", .text "id"), (.text "value", value)]])]

theorem Expr.ofValue_list (items : List Value) :
    Expr.ofValue (.list items) = Loading.refuse (.notAnExpression "list") := by
  rw [Expr.ofValue]
  rfl

/-- The value of the field is a list. -/
theorem Statement.readAt_listedField :
    Statement.readAt "statement" (.mapping (listedFieldEntries (.list []))) =
      .error ⟨"statement.values.id", .notAnExpression "list"⟩ := by
  have hkind : kindText (listedFieldEntries (.list [])) = .ok StatementKind.insert.name := rfl
  have hrow : rowOfPairs [(.text "id", .list [])] =
      .error ⟨[.key "id"], .notAnExpression "list"⟩ := by
    rw [rowOfPairs]
    show (Expr.ofValue (.list [])).under _ >>= _ = _
    rw [Expr.ofValue_list]
    rfl
  -- The value of the only field is refused, and the two keys lead to it.
  have hread : Statement.ofValue (.mapping (listedFieldEntries (.list []))) =
      .error ⟨[.key "values", .key "id"], .notAnExpression "list"⟩ := by
    show kindText (listedFieldEntries (.list [])) >>= _ = _
    rw [hkind]
    show (rowOfPairs [(.text "id", .list [])]).under (.key "values") >>= _ = _
    rw [hrow]
    rfl
  rw [Statement.readAt_eq, hread]
  rfl

/-- No path with this text leads into the document: behind `values` there is a list, and a list has
no field. -/
theorem Statement.location_of_listedField :
    (∃ path : Path, "statement.values.id" = "statement" ++ path.render ∧
      (path.PointsInto (.mapping (listedFieldEntries (.list []))) ∨
        path.Strays (.mapping (listedFieldEntries (.list []))))) ∧
    ¬∃ path : Path, "statement.values.id" = "statement" ++ path.render ∧
      path.PointsInto (.mapping (listedFieldEntries (.list []))) := by
  refine ⟨location_pointsInto readAt_listedField, ?_⟩
  rintro ⟨path, hlocation, found, hreaches⟩
  have htext : path.render.toList = ".values.id".toList := by
    have h := congrArg String.toList hlocation
    rw [String.toList_append] at h
    exact List.append_cancel_left h.symm
  -- The path begins at a key of the statement, and only `values` has the right text.
  cases hreaches with
  | here _ => simp [Path.render] at htext
  | index hcontent _ _ => cases hcontent
  | @key _ field child _ entries name rest hcontent hmem hname hrest =>
    cases hcontent
    rw [Path.render_cons, Step.render] at htext
    simp only [listedFieldEntries, List.mem_cons, Prod.mk.injEq, List.not_mem_nil, or_false] at hmem
    rcases hmem with ⟨rfl, rfl⟩ | ⟨rfl, rfl⟩ | ⟨rfl, rfl⟩
    · have hkey : "kind" = name := Except.ok.inj hname
      subst hkey
      simp at htext
    · have hkey : "table" = name := Except.ok.inj hname
      subst hkey
      simp at htext
    · have hkey : "values" = name := Except.ok.inj hname
      subst hkey
      have hrest' : rest.render.toList = ".id".toList := by simpa using htext
      -- There stands a list, whose steps are indices.
      cases hrest with
      | here _ => simp [Path.render] at hrest'
      | key hcontent _ _ _ => cases hcontent
      | index _ _ _ => simp [Path.render_cons, Step.render] at hrest'

end SchemaMigration
