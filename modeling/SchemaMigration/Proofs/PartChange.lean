import SchemaMigration.Proofs.ReadAtPlace
import SchemaMigration.Proofs.Rephrasing

/-!
# Changing a part of a document changes nothing that does not show in the part

A change of values may be made anywhere inside a document: under a key of a mapping, in the value of
a field, in an item of a list (`Document.Within`). Two readings are alike when they end in the same
way, with the same result or with the same fault; some reasons of a first reading may be excused
(`Document.AlikeBut`). Each step that a reader takes keeps readings alike, so a reader of a mapping
ends alike when its questions are answered alike (`Document.Form.alike_run`), and a change after
which its own value is read alike is one after which the whole document is
(`Document.Within.alike`).
-/

namespace SchemaMigration

/-- What is found under a key is found in the front part, or else in the back part. -/
theorem Entries.get?_append (before after : Entries) (key : String) :
    get? (before ++ after) key = (get? before key).or (get? after key) := by
  induction before with
  | nil => rfl
  | cons entry rest ih =>
    rw [List.cons_append, get?, get?, ih]
    split <;> rfl

theorem Entries.get?_append_cons_self {before : Entries} {key : String} (child : Value)
    (after : Entries) (hfirst : get? before key = none) :
    get? (before ++ (.text key, child) :: after) key = some child := by
  rw [get?_append, hfirst]
  simp [get?, Value.isText]

namespace Document

variable {α β : Type} {excused : Reason → Prop}

/-! ## Readings that end alike -/

/-- Both readings end in the same way, or the first is refused for an excused reason. -/
def AlikeBut (excused : Reason → Prop) (reading reading' : Loading α) : Prop :=
  reading = reading' ∨ ∃ fault, reading = .error fault ∧ excused fault.reason

namespace AlikeBut

theorem refl (reading : Loading α) : AlikeBut excused reading reading := .inl rfl

theorem bind {first first' : Loading α} {next next' : α → Loading β}
    (hfirst : AlikeBut excused first first')
    (hnext : ∀ result, AlikeBut excused (next result) (next' result)) :
    AlikeBut excused (first >>= next) (first' >>= next') := by
  rcases hfirst with rfl | ⟨fault, rfl, hreason⟩
  · cases first with
    | error fault => exact refl _
    | ok result => exact hnext result
  · exact .inr ⟨fault, rfl, hreason⟩

theorem under {reading reading' : Loading α} (h : AlikeBut excused reading reading') (step : Step) :
    AlikeBut excused (reading.under step) (reading'.under step) := by
  rcases h with rfl | ⟨fault, rfl, hreason⟩
  · exact refl _
  · exact .inr ⟨⟨step :: fault.path, fault.reason⟩, rfl, hreason⟩

/-- What is done with the result does not matter for how a reading ends. -/
theorem map {reading reading' : Loading α} (h : AlikeBut excused reading reading') (f : α → β) :
    AlikeBut excused (reading >>= fun result => .ok (f result))
      (reading' >>= fun result => .ok (f result)) :=
  h.bind fun _ => refl _

end AlikeBut

theorem alikeBut_readItems {step : Nat → Step} {read : Value → Loading α}
    {items items' : List Value}
    (h : List.Forall₂ (fun item item' => AlikeBut excused (read item) (read item')) items items') :
    ∀ i, AlikeBut excused (readItems step read i items) (readItems step read i items') := by
  induction h with
  | nil => exact fun _ => .refl _
  | cons hfirst _ ih => exact fun i => (hfirst.under (step i)).bind fun _ => (ih (i + 1)).map _

/-- A form ends alike when its questions do. -/
theorem Form.alike_run {entries entries' : Entries} {form : Form α}
    (h : form.All fun question => AlikeBut excused (question.answer (entries.get? question.key))
      (question.answer (entries'.get? question.key))) :
    AlikeBut excused (form.run entries) (form.run entries') := by
  induction form with
  | done result => exact .refl _
  | refuse reason => exact .refl _
  | ask question next ih => exact h.1.bind fun answer => ih answer (h.2 answer)

/-! ## Mappings of a known kind -/

/-- The questions that a mapping is asked in the position, its kind being known. -/
inductive Position.Asks (entries : Entries) :
    (position : Position) → Form position.Result → Prop where
  | statement {kind : StatementKind} (hkind : kindText entries = .ok kind.name) :
      Position.Asks entries .statement kind.form
  | select : Position.Asks entries .select selectForm
  | conflict : Position.Asks entries .conflict conflictForm
  | expression {kind : ExprKind} (hkind : kindText entries = .ok kind.name) :
      Position.Asks entries .expression kind.form
  | column : Position.Asks entries .column columnForm
  | table : Position.Asks entries .table tableForm
  | identifier : Position.Asks entries .identifier identifierForm

section Kinds

variable {value : Value} {entries entries' : Entries}

theorem statementForm_run_of_kind {kind : StatementKind}
    (hkind : kindText entries = .ok kind.name) :
    statementForm.run entries = kind.form.run entries := by
  show (Question.keyword "kind").answer (entries.get? "kind") >>= _ = _
  rw [answer_kind, hkind]
  dsimp only [bind, Except.bind]
  rw [StatementKind.ofName?_name]

theorem expressionForm_run_of_kind {kind : ExprKind} (hkind : kindText entries = .ok kind.name) :
    expressionForm.run entries = kind.form.run entries := by
  show (Question.keyword "kind").answer (entries.get? "kind") >>= _ = _
  rw [answer_kind, hkind]
  dsimp only [bind, Except.bind]
  rw [ExprKind.ofName?_name]

theorem Position.Asks.read_eq_run {position : Position} {form : Form position.Result}
    (h : position.Asks entries form) (hcontent : value.content = .mapping entries) :
    position.read value = form.run entries := by
  -- A statement and an expression ask for their kind first, and all others ask at once.
  cases h with
  | statement hkind =>
    exact (Statement.ofValue_eq_run hcontent).trans (statementForm_run_of_kind hkind)
  | expression hkind =>
    exact (Expr.ofValue_eq_run hcontent).trans (expressionForm_run_of_kind hkind)
  | select => exact Position.read_eq_run rfl hcontent
  | conflict => exact Position.read_eq_run rfl hcontent
  | column => exact Position.read_eq_run rfl hcontent
  | table => exact Position.read_eq_run rfl hcontent
  | identifier => exact Position.read_eq_run rfl hcontent

theorem kindText_eq_of_get?_eq (h : entries.get? "kind" = entries'.get? "kind") :
    kindText entries = kindText entries' := by
  rw [← answer_kind, ← answer_kind, h]

theorem Position.Asks.of_kind_eq {position : Position} {form : Form position.Result}
    (h : position.Asks entries form) (hkind : kindText entries = kindText entries') :
    position.Asks entries' form := by
  cases h with
  | statement h => exact .statement (hkind.symm.trans h)
  | expression h => exact .expression (hkind.symm.trans h)
  | select => exact .select
  | conflict => exact .conflict
  | column => exact .column
  | table => exact .table
  | identifier => exact .identifier

end Kinds

/-- The parts give the question's key the position in which the question reads it. -/
def Question.Fits (parts : List (String × Position)) : Question α → Prop
  | text key => parts.lookup key = none
  | keyword key => parts.lookup key = some .keyword
  | target key => parts.lookup key = some .keyword
  | name key => parts.lookup key = some .identifier
  | part key position => parts.lookup key = some position
  | partIfAny key position => parts.lookup key = some position
  | partIfPresent key position => parts.lookup key = some position
  | listIfPresent key position => parts.lookup key = some (.list position)
  | textIfAny key => parts.lookup key = none
  | flag key => parts.lookup key = none

end Document

open Document

theorem ExprKind.fits_form (kind : ExprKind) : kind.form.All (Question.Fits kind.parts) := by
  cases kind <;>
    simp [ExprKind.form, ExprKind.parts, columnForm, Form.map, Form.All, Question.Fits,
      List.lookup_cons]

theorem StatementKind.fits_form (kind : StatementKind) :
    kind.form.All (Question.Fits kind.parts) := by
  cases kind <;>
    simp [StatementKind.form, StatementKind.parts, selectForm, Form.map, Form.All, Question.Fits,
      List.lookup_cons]

namespace Document

section Alike

variable {position : Position} {value value' : Value} {entries entries' : Entries}

/-- What the parts of a mapping are, its form asks. -/
theorem Position.Parts.exists_asks {parts : List (String × Position)}
    (hparts : Position.Parts entries position parts) (hbatch : position ≠ .batch)
    (hpair : position ≠ .pair) :
    ∃ form, position.Asks entries form ∧ form.All (Question.Fits parts) := by
  cases hparts with
  | batch => exact absurd rfl hbatch
  -- A batch and a pair have parts, but no form.
  | pair => exact absurd rfl hpair
  | @statement kind hkind => exact ⟨_, .statement hkind, kind.fits_form⟩
  | @expression kind hkind => exact ⟨_, .expression hkind, kind.fits_form⟩
  | select =>
    refine ⟨_, .select, ?_⟩
    simp [selectForm, StatementKind.parts, Form.All, Question.Fits, List.lookup_cons]
  | conflict =>
    refine ⟨_, .conflict, ?_⟩
    simp [conflictForm, conflictParts, Form.All, Question.Fits, List.lookup_cons]
  | column =>
    refine ⟨_, .column, ?_⟩
    simp [columnForm, ExprKind.parts, Form.All, Question.Fits, List.lookup_cons]
  | table _ =>
    refine ⟨_, .table, rfl, fun table => ?_⟩
    cases table <;> simp [identifierForm, Form.map, Form.All, Question.Fits, List.lookup_cons]

/-! ## Values that are read alike -/

/-- Both values write the same field, and expressions that are read alike; or they are refused with
one fault. -/
inductive PairAlike (excused : Reason → Prop) (value value' : Value) : Prop where
  | refused {fault : Fault} (h : pairOfValue value = .error fault)
      (h' : pairOfValue value' = .error fault) : PairAlike excused value value'
  | written {field child child' : Value} (h : pairOfValue value = .ok (field, child))
      (h' : pairOfValue value' = .ok (field, child'))
      (hchild : AlikeBut excused (Expr.ofValue child) (Expr.ofValue child')) :
      PairAlike excused value value'

/-- The values are read alike in the position. Lists are so item by item, and pairs in both of their
parts, since the fields and values of an insert are all collected before one of them is read. -/
def Position.Alike (excused : Reason → Prop) : Position → Value → Value → Prop
  | pair, value, value' => PairAlike excused value value'
  | list position, value, value' => value = value' ∨ ∃ items items',
    value.content = .list items ∧ value'.content = .list items' ∧
      List.Forall₂ (position.Alike excused) items items'
  | position, value, value' => AlikeBut excused (position.read value) (position.read value')

theorem PairAlike.refl (value : Value) : PairAlike excused value value := by
  cases h : pairOfValue value with
  | error fault => exact .refused h h
  | ok pair => exact .written h h (.refl _)

theorem Position.Alike.refl : ∀ (position : Position) (value : Value),
    position.Alike excused value value := by
  intro position value
  cases position with
  | pair => exact PairAlike.refl value
  | list position => exact .inl rfl
  | _ => exact AlikeBut.refl _

/-- The names and expressions of two pairs are read alike. -/
def CellAlike (excused : Reason → Prop) (pair pair' : Value × Value) : Prop :=
  AlikeBut excused (cellOfPair pair) (cellOfPair pair')

theorem cellAlike_of_value {field child child' : Value}
    (h : AlikeBut excused (Expr.ofValue child) (Expr.ofValue child')) :
    CellAlike excused (field, child) (field, child') :=
  (AlikeBut.refl (shown field)).bind fun name => (h.under (.key name)).map _

theorem Position.Alike.alikeBut (h : position.Alike excused value value') :
    AlikeBut excused (position.read value) (position.read value') := by
  -- A pair is read in two steps, and a list item by item; all others are read at once.
  induction position generalizing value value' with
  | pair =>
    show AlikeBut excused (pairOfValue value >>= cellOfPair) (pairOfValue value' >>= cellOfPair)
    cases h with
    | refused h h' =>
      rw [h, h']
      exact .refl _
    | written h h' hchild =>
      rw [h, h']
      exact cellAlike_of_value hchild
  | list position ih =>
    rcases h with rfl | ⟨items, items', hcontent, hcontent', hitems⟩
    · exact .refl _
    · show AlikeBut excused (listOf position.read value) (listOf position.read value')
      rw [listOf, listOf, hcontent, hcontent']
      exact alikeBut_readItems (hitems.imp fun _ _ => ih) 0
  | _ => exact h

/-! ### Mappings with one changed part -/

section Parts

variable {parts : List (String × Position)} {part : Position} {key : String} {child child' : Value}

/-- Both mappings hold the same under every key, or the two values under the given one. -/
def ChangedAt (key : String) (child child' : Value) (entries entries' : Entries) : Prop :=
  ∀ name, entries.get? name = entries'.get? name ∨
    name = key ∧ entries.get? name = some child ∧ entries'.get? name = some child'

theorem demanded_some {key : String} {read : Value → Loading α} (hnull : child.isNull = false) :
    Question.demanded key read (some child) = read child := by
  rw [Question.demanded, hnull, if_neg Bool.false_ne_true]

variable (hchanged : ChangedAt key child child' entries entries')
  (hnull : child.isNull = false) (hnull' : child'.isNull = false)

include hchanged hnull hnull'

/-- Of the questions only the one for the changed part is answered from what has changed. -/
theorem Question.alike_answer {question : Question α} (hfits : question.Fits parts)
    (hkey : parts.lookup key = some part) (hpart : part ≠ .keyword)
    (hchild : part.Alike excused child child') :
    AlikeBut excused (question.answer (entries.get? question.key))
      (question.answer (entries'.get? question.key)) := by
  rcases hchanged question.key with hsame | ⟨rfl, hget, hget'⟩
  · rw [hsame]
    exact .refl _
  -- The key is that of the part, so the question reads it in the position of the part.
  have hread := hchild.alikeBut
  rw [hget, hget']
  -- Texts and flags are not parts; a word or a target is one that no change is made in.
  cases question with
  | text _ => cases hfits.symm.trans hkey
  | textIfAny _ => cases hfits.symm.trans hkey
  | flag _ => cases hfits.symm.trans hkey
  | keyword _ => exact absurd (Option.some.inj (hkey.symm.trans hfits)) hpart
  | target _ => exact absurd (Option.some.inj (hkey.symm.trans hfits)) hpart
  | name key =>
    obtain rfl := Option.some.inj (hkey.symm.trans hfits)
    rw [answer, answer, demanded_some hnull, demanded_some hnull']
    exact hread
  | part key position =>
    obtain rfl := Option.some.inj (hkey.symm.trans hfits)
    rw [answer, answer, demanded_some hnull, demanded_some hnull']
    exact hread.under _
  | partIfAny key position =>
    obtain rfl := Option.some.inj (hkey.symm.trans hfits)
    rw [answer, answer, hnull, hnull', if_neg Bool.false_ne_true, if_neg Bool.false_ne_true]
    exact (hread.under _).map _
  | partIfPresent key position =>
    obtain rfl := Option.some.inj (hkey.symm.trans hfits)
    exact (hread.under _).map _
  | listIfPresent key position =>
    obtain rfl := Option.some.inj (hkey.symm.trans hfits)
    exact hread.under _

omit hnull hnull' in
/-- The kind is a word, and no part that changes is one. -/
theorem Position.Parts.kindText_eq (hparts : Position.Parts entries position parts)
    (hkey : parts.lookup key = some part) (hpart : part ≠ .keyword) :
    kindText entries = kindText entries' := by
  -- The key that tells the kind is that of a word.
  have hne : "kind" ≠ key := by
    rintro rfl
    cases hparts with
    | batch => cases hkey
    | pair => cases hkey
    | conflict => cases hkey
    | table _ => cases hkey
    | statement _ => exact hpart (Option.some.inj hkey.symm)
    | select => exact hpart (Option.some.inj hkey.symm)
    | expression _ => exact hpart (Option.some.inj hkey.symm)
    | column => exact hpart (Option.some.inj hkey.symm)
  rcases hchanged "kind" with hsame | ⟨hname, _⟩
  · exact kindText_eq_of_get?_eq hsame
  · exact absurd hname hne

end Parts

/-! ### Batches and rows -/

/-- The statements of a list that is the value of a key. -/
def statementsOfList (list : Value) : Loading Batch :=
  match list.content with
  | .list items => statementsOfItems 0 items
  | _ => Loading.refuse .notABatch

theorem batchOfValue_mapping (hcontent : value.content = .mapping entries) :
    Batch.ofValue value =
      Question.demanded "statements" statementsOfList (entries.get? "statements") := by
  rw [Batch.ofValue, batchItems, hcontent, demanded_eq]
  dsimp only
  rw [bind_assoc]
  refine bind_congr fun found => ?_
  rw [statementsOfList]
  cases found.1.content <;> rfl

theorem batchOfValue_list {items : List Value} (hcontent : value.content = .list items) :
    Batch.ofValue value = statementsOfList value := by
  rw [Batch.ofValue, batchItems, statementsOfList, hcontent]
  rfl

theorem alikeBut_statementsOfList (h : (Position.list .statement).Alike excused value value') :
    AlikeBut excused (statementsOfList value) (statementsOfList value') := by
  rcases h with rfl | ⟨items, items', hcontent, hcontent', hitems⟩
  · exact .refl _
  · rw [statementsOfList, statementsOfList, hcontent, hcontent']
    dsimp only
    rw [statementsOfItems_eq_readItems, statementsOfItems_eq_readItems]
    exact alikeBut_readItems hitems 0

theorem pairOfValue_mapping (hcontent : value.content = .mapping entries) :
    pairOfValue value =
      Question.demanded "field" .ok (entries.get? "field") >>= fun field =>
        Question.demanded "value" .ok (entries.get? "value") >>= fun child =>
          .ok (field, child) := by
  rw [pairOfValue, ofMapping, hcontent, demanded_eq, demanded_eq]
  simp only [bind_assoc]
  rfl

theorem alikeBut_rowOfPairs {pairs pairs' : Entries}
    (h : List.Forall₂ (CellAlike excused) pairs pairs') :
    AlikeBut excused (rowOfPairs pairs) (rowOfPairs pairs') := by
  induction h with
  | nil => exact .refl _
  | cons hfirst _ ih =>
    rw [rowOfPairs_cons, rowOfPairs_cons]
    exact hfirst.bind fun first => ih.map _

/-- The pairs of two lists are refused with one fault, or they are pairs of the same fields. -/
theorem alike_readPairs {items items' : List Value}
    (h : List.Forall₂ (PairAlike excused) items items') :
    ∀ i, (∃ fault, readItems .index pairOfValue i items = .error fault ∧
        readItems .index pairOfValue i items' = .error fault) ∨
      ∃ pairs pairs', readItems .index pairOfValue i items = .ok pairs ∧
        readItems .index pairOfValue i items' = .ok pairs' ∧
        List.Forall₂ (CellAlike excused) pairs pairs' := by
  induction h with
  | nil => exact fun i => .inr ⟨[], [], rfl, rfl, .nil⟩
  | cons hfirst _ ih =>
    intro i
    rw [readItems, readItems]
    -- A fault in the first pair is the same on both sides; otherwise the rest decides.
    cases hfirst with
    | refused h h' =>
      rw [h, h']
      exact .inl ⟨_, rfl, rfl⟩
    | written h h' hchild =>
      rw [h, h']
      rcases ih (i + 1) with ⟨fault, hrest, hrest'⟩ | ⟨pairs, pairs', hrest, hrest', hpairs⟩
      · rw [hrest, hrest']
        exact .inl ⟨fault, rfl, rfl⟩
      · rw [hrest, hrest']
        exact .inr ⟨_, _, rfl, rfl, .cons (cellAlike_of_value hchild) hpairs⟩

theorem Position.Alike.row (h : (Position.list .pair).Alike excused value value') :
    Position.row.Alike excused value value' := by
  rcases h with rfl | ⟨items, items', hcontent, hcontent', hitems⟩
  · exact Position.Alike.refl .row value
  · show AlikeBut excused (pairsOfValue value >>= rowOfPairs) (pairsOfValue value' >>= rowOfPairs)
    rw [pairsOfValue, pairsOfValue, hcontent, hcontent']
    dsimp only
    rw [pairsOfItems_eq_readItems, pairsOfItems_eq_readItems]
    -- Every pair is taken apart before the first value is read, so a change in a value cannot come
    -- in front of a fault in a later pair.
    rcases alike_readPairs hitems 0 with ⟨fault, hitems, hitems'⟩ |
      ⟨pairs, pairs', hitems, hitems', hpairs⟩
    · rw [hitems, hitems']
      exact .refl _
    · rw [hitems, hitems']
      exact alikeBut_rowOfPairs hpairs

theorem Position.Alike.batch (h : (Position.list .statement).Alike excused value value') :
    Position.batch.Alike excused value value' := by
  have hlist := alikeBut_statementsOfList h
  rcases h with rfl | ⟨items, items', hcontent, hcontent', _⟩
  · exact Position.Alike.refl .batch value
  · show AlikeBut excused (Batch.ofValue value) (Batch.ofValue value')
    rw [batchOfValue_list hcontent, batchOfValue_list hcontent']
    exact hlist

/-- A mapping is read alike when the values of one of its parts are. -/
theorem Position.Parts.alike {parts : List (String × Position)} {part : Position} {key : String}
    {child child' : Value} (hparts : Position.Parts entries position parts)
    (hcontent : value.content = .mapping entries) (hcontent' : value'.content = .mapping entries')
    (hchanged : ChangedAt key child child' entries entries') (hnull : child.isNull = false)
    (hnull' : child'.isNull = false) (hkey : parts.lookup key = some part)
    (hpart : part ≠ .keyword) (hchild : part.Alike excused child child') :
    position.Alike excused value value' := by
  -- A position with a form ends alike, since each question is answered alike.
  have hform (hbatch : position ≠ .batch) (hpair : position ≠ .pair) :
      AlikeBut excused (position.read value) (position.read value') := by
    obtain ⟨form, hasks, hfits⟩ := hparts.exists_asks hbatch hpair
    have hasks' := hasks.of_kind_eq (hparts.kindText_eq hchanged hkey hpart)
    rw [hasks.read_eq_run hcontent, hasks'.read_eq_run hcontent']
    exact Form.alike_run <| hfits.mono fun _ hquestion =>
      Question.alike_answer hchanged hnull hnull' hquestion hkey hpart hchild
  -- Batches and pairs are not read by forms: a batch needs a list, and of a pair both values are
  -- taken out before one of them is read.
  cases hparts with
  | batch =>
    show AlikeBut excused (Batch.ofValue value) (Batch.ofValue value')
    rw [batchOfValue_mapping hcontent, batchOfValue_mapping hcontent']
    rcases hchanged "statements" with hsame | ⟨rfl, hget, hget'⟩
    · rw [hsame]
      exact .refl _
    · cases hkey
      rw [hget, hget', demanded_some hnull, demanded_some hnull']
      exact alikeBut_statementsOfList hchild
  | pair =>
    show PairAlike excused value value'
    have hpair := pairOfValue_mapping hcontent
    have hpair' := pairOfValue_mapping hcontent'
    -- The name of the field is the same on both sides.
    have hfield : entries.get? "field" = entries'.get? "field" := by
      rcases hchanged "field" with hsame | ⟨rfl, _⟩
      · exact hsame
      · cases hkey
    rw [← hfield] at hpair'
    rcases hchanged "value" with hsame | ⟨rfl, hget, hget'⟩
    · rw [← hsame, ← hpair] at hpair'
      -- The value is the same as well, so both readings are.
      cases hread : pairOfValue value with
      | error fault => exact .refused hread (hpair'.trans hread)
      | ok pair => exact .written hread (hpair'.trans hread) (.refl _)
    · cases hkey
      rw [hget, demanded_some hnull] at hpair
      rw [hget', demanded_some hnull'] at hpair'
      -- The field is asked for first, and its fault would be the same.
      cases hdemanded : Question.demanded "field" .ok (entries.get? "field") with
      | error fault =>
        rw [hdemanded] at hpair hpair'
        exact .refused hpair hpair'
      | ok field =>
        rw [hdemanded] at hpair hpair'
        exact .written hpair hpair' hchild
  | statement _ => exact hform nofun nofun
  | select => exact hform nofun nofun
  | conflict => exact hform nofun nofun
  | expression _ => exact hform nofun nofun
  | column => exact hform nofun nofun
  | table _ => exact hform nofun nofun

end Alike

/-! ## Changes inside a value -/

/-- The change is made at one place of a value: at the value itself, or in something that stands
inside it. -/
inductive Within (change : Position → Value → Value → Prop) : Position → Value → Value → Prop where
  | here {position : Position} {value value' : Value} (h : change position value value') :
      Within change position value value'
  /-- Under a key of a mapping. -/
  | part {position part : Position} {parts : List (String × Position)}
      {value value' child child' : Value} {before after : Entries} {key : String}
      (hcontent : value.content = .mapping (before ++ (.text key, child) :: after))
      (hcontent' : value'.content = .mapping (before ++ (.text key, child') :: after))
      (hfirst : Entries.get? before key = none)
      (hparts : Position.Parts (before ++ (.text key, child) :: after) position parts)
      (hkey : parts.lookup key = some part) (hchild : Within change part child child') :
      Within change position value value'
  /-- In the value of a field, when the values of an insert are a mapping. -/
  | cell {value value' field child child' : Value} {before after : Entries}
      (hcontent : value.content = .mapping (before ++ (field, child) :: after))
      (hcontent' : value'.content = .mapping (before ++ (field, child') :: after))
      (hchild : Within change .expression child child') : Within change .row value value'
  /-- In an item of a list. -/
  | item {position : Position} {value value' child child' : Value} {before after : List Value}
      (hcontent : value.content = .list (before ++ child :: after))
      (hcontent' : value'.content = .list (before ++ child' :: after))
      (hchild : Within change position child child') : Within change (.list position) value value'
  | pairs {value value' : Value} (h : Within change (.list .pair) value value') :
      Within change .row value value'
  | statements {value value' : Value} (h : Within change (.list .statement) value value') :
      Within change .batch value value'

/-- The values before and after the change are there, and they are read alike.
No word is changed. -/
structure KeepsAlike (excused : Reason → Prop) (change : Position → Value → Value → Prop) :
    Prop where
  isNull_left {position : Position} {value value' : Value} (h : change position value value') :
    value.isNull = false
  isNull_right {position : Position} {value value' : Value} (h : change position value value') :
    value'.isNull = false
  not_keyword (value value' : Value) : ¬change .keyword value value'
  alike {position : Position} {value value' : Value} (h : change position value value') :
    position.Alike excused value value'

theorem forall₂_append_cons_of_refl {R : α → α → Prop} (hrefl : ∀ a, R a a) {a a' : α} (h : R a a')
    (before after : List α) : List.Forall₂ R (before ++ a :: after) (before ++ a' :: after) := by
  induction before with
  | nil => exact .cons h (List.forall₂_same.mpr fun b _ => hrefl b)
  | cons first rest ih => exact .cons (hrefl first) ih

namespace Within

variable {change : Position → Value → Value → Prop} {position : Position} {value value' : Value}

theorem not_keyword (hkeeps : KeepsAlike excused change) (h : Within change .keyword value value') :
    False := by
  cases h with
  | here h => exact hkeeps.not_keyword value value' h
  | part _ _ _ hparts => cases hparts

/-- Wherever the change is made, the values are there and they are read alike. -/
theorem alike (hkeeps : KeepsAlike excused change) (h : Within change position value value') :
    value.isNull = false ∧ value'.isNull = false ∧ position.Alike excused value value' := by
  -- The induction is on the way to the changed value, and each step keeps the reading alike.
  induction h with
  | here h => exact ⟨hkeeps.isNull_left h, hkeeps.isNull_right h, hkeeps.alike h⟩
  | @part position part parts value value' child child' before after key hcontent hcontent' _
      hparts hkey hchild ih =>
    refine ⟨isNull_of_content_mapping hcontent, isNull_of_content_mapping hcontent', ?_⟩
    have hpart : part ≠ .keyword := by
      rintro rfl
      exact hchild.not_keyword hkeeps
    exact hparts.alike hcontent hcontent'
      (fun name => Entries.get?_append_cons before after key name child child') ih.1 ih.2.1 hkey
      hpart ih.2.2
  | @cell value value' field child child' before after hcontent hcontent' _ ih =>
    refine ⟨isNull_of_content_mapping hcontent, isNull_of_content_mapping hcontent', ?_⟩
    show AlikeBut excused (pairsOfValue value >>= rowOfPairs) (pairsOfValue value' >>= rowOfPairs)
    rw [pairsOfValue, pairsOfValue, hcontent, hcontent']
    -- A field that is not changed is read alike, and so are the fields around it.
    have hcell : CellAlike excused (field, child) (field, child') := cellAlike_of_value ih.2.2
    have hsame (pair : Value × Value) : CellAlike excused pair pair := .refl _
    exact alikeBut_rowOfPairs (forall₂_append_cons_of_refl hsame hcell before after)
  | @item position value value' child child' before after hcontent hcontent' _ ih =>
    exact ⟨isNull_of_content_list hcontent, isNull_of_content_list hcontent',
      .inr ⟨_, _, hcontent, hcontent', forall₂_append_cons_of_refl
        (fun item => Position.Alike.refl position item) ih.2.2 before after⟩⟩
  | pairs _ ih => exact ⟨ih.1, ih.2.1, ih.2.2.row⟩
  | statements _ ih => exact ⟨ih.1, ih.2.1, ih.2.2.batch⟩

end Within

end Document

end SchemaMigration
