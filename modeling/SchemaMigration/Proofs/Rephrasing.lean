import Mathlib.Logic.Relation
import SchemaMigration.Proofs.Interchange
import SchemaMigration.Proofs.WrittenForm

/-!
# Equivalent spellings of a document

Documents have short forms: a text or a number for a literal, a text for an identifier, an
identifier for a table, a mapping for the fields and values of an insert, a list for a batch. Each
has a long form, and the names of kinds and targets can be written in any case.
`Document.Rephrased` relates two values in a position when one of these changes is made once,
somewhere in them. Documents that are related by any number of changes, in either direction, are
accepted alike and load to the same statements (`Batch.ofValue_eq_ok_of_rephrased`).

One change keeps what is read in every position around it
(`Document.Rephrased.interchangeable`): at its own place because both forms are read as the same
thing, and further out because a reader of a mapping or a list knows its parts only by what they are
read as.
-/

namespace SchemaMigration

/-! ## Records -/

/-- The order of the entries does not matter for what is under a key. -/
theorem Entries.get?_ofFields_of_perm {fields fields' : List (String × Value)}
    (h : fields.Perm fields') (hdistinct : (fields.map Prod.fst).Nodup) (key : String) :
    (ofFields fields).get? key = (ofFields fields').get? key := by
  induction h with
  | nil => rfl
  | cons field _ ih =>
    obtain ⟨name, value⟩ := field
    -- Behind the field in front both lists are searched alike.
    have hrest := ih (List.nodup_cons.mp hdistinct).2
    rw [get?_ofFields_cons, get?_ofFields_cons, hrest]
  | swap field field' rest =>
    obtain ⟨name, value⟩ := field
    obtain ⟨name', value'⟩ := field'
    -- The two fields have different names, so only one of them can be the one that is asked for.
    have hne : name' ≠ name := by
      have hnotMem := (List.nodup_cons.mp hdistinct).1
      rw [List.map_cons, List.mem_cons, not_or] at hnotMem
      exact hnotMem.1
    simp only [get?_ofFields_cons]
    by_cases hkey : name' = key
    · have hother : name ≠ key := fun h => hne (hkey.trans h.symm)
      rw [if_pos hkey, if_pos hkey, if_neg hother]
    · rw [if_neg hkey, if_neg hkey]
  | trans hperm _ ih₁ ih₂ =>
    have hdistinct' := (hperm.map Prod.fst).nodup_iff.mp hdistinct
    exact (ih₁ hdistinct).trans (ih₂ hdistinct')

/-- Changing one value of a mapping changes what is under its key, or nothing if the key stands
further in front, too. -/
theorem Entries.get?_append_cons (before after : Entries) (key name : String)
    (value value' : Value) :
    get? (before ++ (.text key, value) :: after) name =
        get? (before ++ (.text key, value') :: after) name ∨
      name = key ∧ get? (before ++ (.text key, value) :: after) name = some value ∧
        get? (before ++ (.text key, value') :: after) name = some value' := by
  induction before with
  | nil =>
    -- Nothing stands in front, so the value is what is found under its key.
    by_cases hname : key = name
    · right
      simp [get?, Value.isText, hname]
    · left
      simp [get?, Value.isText, hname]
  | cons entry rest ih =>
    by_cases hfirst : entry.1.isText name
    · left
      simp [get?, hfirst]
    · simpa [get?, hfirst] using ih

theorem Value.isNull_of_content {value : Value} (h : value.content ≠ .null) :
    value.isNull = false := by
  cases value with
  | null => exact absurd rfl h
  | _ => rfl

theorem ExprKind.eq_of_kindText {kind kind' : ExprKind} {entries : Entries}
    (h : Document.kindText entries = .ok kind.name)
    (h' : Document.kindText entries = .ok kind'.name) : kind = kind' := by
  have hname : kind.name = kind'.name := Except.ok.inj (h.symm.trans h')
  have hsome : some kind = some kind' := by rw [← ofName?_name kind, hname, ofName?_name]
  exact Option.some.inj hsome

theorem StatementKind.eq_of_kindText {kind kind' : StatementKind} {entries : Entries}
    (h : Document.kindText entries = .ok kind.name)
    (h' : Document.kindText entries = .ok kind'.name) : kind = kind' := by
  have hname : kind.name = kind'.name := Except.ok.inj (h.symm.trans h')
  have hsome : some kind = some kind' := by rw [← ofName?_name kind, hname, ofName?_name]
  exact Option.some.inj hsome

namespace Document

/-- The value is a mapping with these fields, in any order. -/
def IsRecord (fields : List (String × Value)) (value : Value) : Prop :=
  ∃ written : List (String × Value), written.Perm fields ∧
    value.content = .mapping (Entries.ofFields written)

namespace IsRecord

variable {fields : List (String × Value)} {value : Value}

theorem isNull_eq (h : IsRecord fields value) : value.isNull = false := by
  obtain ⟨written, _, hcontent⟩ := h
  exact Value.isNull_of_content (by rw [hcontent]; exact nofun)

theorem exists_get?_eq (h : IsRecord fields value) (hdistinct : (fields.map Prod.fst).Nodup) :
    ∃ entries : Entries, value.content = .mapping entries ∧
      ∀ key, entries.get? key = (Entries.ofFields fields).get? key := by
  obtain ⟨written, hperm, hcontent⟩ := h
  have hdistinct' := (hperm.map Prod.fst).nodup_iff.mpr hdistinct
  exact ⟨_, hcontent, Entries.get?_ofFields_of_perm hperm hdistinct'⟩

theorem content_eq_of_single {key : String} {child : Value}
    (h : IsRecord [(key, child)] value) :
    value.content = .mapping (Entries.ofFields [(key, child)]) := by
  obtain ⟨written, hperm, hcontent⟩ := h
  rwa [List.perm_singleton.mp hperm] at hcontent

end IsRecord

/-! ## One change -/

/-- The value is a text. -/
def IsString : Value → Prop
  | .text _ => True
  | .brokenText _ => True
  | _ => False

/-- The value is a text or a number; booleans are neither. -/
def IsTextOrNumber : Value → Prop
  | .int _ => True
  | .float _ => True
  | value => IsString value

/-- The value is a text, or a mapping without the key `table`. -/
def NamesNoTable (value : Value) : Prop :=
  IsString value ∨
    ∃ entries : Entries, value.content = .mapping entries ∧ entries.get? "table" = none

/-- The list item writes the field and the value of the entry. -/
def IsPairOf (entry : Value × Value) (item : Value) : Prop :=
  IsString entry.1 ∧ entry.2.isNull = false ∧
    IsRecord [("field", entry.1), ("value", entry.2)] item

/-- The positions of the values under the keys of a mapping, when the mapping stands in the
position. For statements and expressions it takes the kind to know them, and a mapping is a table
and not an identifier only when it has the key `table`. -/
inductive Position.Parts (entries : Entries) : Position → List (String × Position) → Prop where
  | batch : Position.Parts entries .batch [("statements", .list .statement)]
  | statement {kind : StatementKind} (hkind : kindText entries = .ok kind.name) :
      Position.Parts entries .statement kind.parts
  | select : Position.Parts entries .select StatementKind.select.parts
  | pair : Position.Parts entries .pair [("value", .expression)]
  | conflict : Position.Parts entries .conflict conflictParts
  | expression {kind : ExprKind} (hkind : kindText entries = .ok kind.name) :
      Position.Parts entries .expression kind.parts
  | column : Position.Parts entries .column ExprKind.column.parts
  | table {name : Value} (hname : entries.get? "table" = some name) :
      Position.Parts entries .table [("table", .identifier)]

/-- One change, from a short form to a long form or from one case to another, at one place of a
value. The first six rules make the change; the others say where it can be made. -/
inductive Rephrased : Position → Value → Value → Prop where
  | literal {value record : Value} (hvalue : IsTextOrNumber value)
      (hrecord : IsRecord [("kind", .text ExprKind.literal.name), ("text", value)] record) :
      Rephrased .expression value record
  | name {value record : Value} (hvalue : IsString value)
      (hrecord : IsRecord [("name", value)] record) : Rephrased .identifier value record
  | table {value record : Value} (hvalue : NamesNoTable value)
      (hrecord : IsRecord [("table", value)] record) : Rephrased .table value record
  | row {value value' : Value} {entries : Entries} {items : List Value}
      (hcontent : value.content = .mapping entries) (hcontent' : value'.content = .list items)
      (hpairs : List.Forall₂ IsPairOf entries items) : Rephrased .row value value'
  | batch {value record : Value} {items : List Value} (hcontent : value.content = .list items)
      (hrecord : IsRecord [("statements", value)] record) : Rephrased .batch value record
  | keyword {text text' : String} (hlower : Text.lower text = Text.lower text') :
      Rephrased .keyword (.text text) (.text text')
  /-- Under a key of a mapping. -/
  | part {position part : Position} {parts : List (String × Position)}
      {value value' child child' : Value} {before after : Entries} {key : String}
      (hcontent : value.content = .mapping (before ++ (.text key, child) :: after))
      (hcontent' : value'.content = .mapping (before ++ (.text key, child') :: after))
      (hparts : Position.Parts (before ++ (.text key, child) :: after) position parts)
      (hkey : parts.lookup key = some part) (hchild : Rephrased part child child') :
      Rephrased position value value'
  /-- In the value of a field, when the values of an insert are a mapping. -/
  | cell {value value' field child child' : Value} {before after : Entries}
      (hcontent : value.content = .mapping (before ++ (field, child) :: after))
      (hcontent' : value'.content = .mapping (before ++ (field, child') :: after))
      (hchild : Rephrased .expression child child') : Rephrased .row value value'
  /-- In an item of a list. -/
  | item {position : Position} {value value' child child' : Value} {before after : List Value}
      (hcontent : value.content = .list (before ++ child :: after))
      (hcontent' : value'.content = .list (before ++ child' :: after))
      (hchild : Rephrased position child child') : Rephrased (.list position) value value'
  | pairs {value value' : Value} (h : Rephrased (.list .pair) value value') :
      Rephrased .row value value'
  | statements {value value' : Value} (h : Rephrased (.list .statement) value value') :
      Rephrased .batch value value'

/-! ## What each change keeps -/

theorem isNull_of_isString {value : Value} (h : IsString value) : value.isNull = false := by
  cases value with
  | null => cases h
  | _ => rfl

theorem isNull_of_isTextOrNumber {value : Value} (h : IsTextOrNumber value) :
    value.isNull = false := by
  cases value with
  | null => cases h
  | _ => rfl

theorem isNull_of_content_mapping {value : Value} {entries : Entries}
    (h : value.content = .mapping entries) : value.isNull = false :=
  Value.isNull_of_content (by rw [h]; exact nofun)

theorem isNull_of_content_list {value : Value} {items : List Value}
    (h : value.content = .list items) : value.isNull = false :=
  Value.isNull_of_content (by rw [h]; exact nofun)

theorem isNull_of_namesNoTable {value : Value} (h : NamesNoTable value) :
    value.isNull = false := by
  rcases h with hstring | ⟨entries, hcontent, _⟩
  · exact isNull_of_isString hstring
  · exact isNull_of_content_mapping hcontent

/-! ### Short forms and long forms -/

/-- A text or a number is the literal of its text. -/
theorem exprOfValue_of_isTextOrNumber {value : Value} (h : IsTextOrNumber value) {e : Expr} :
    Expr.ofValue value = .ok e ↔ ∃ text, shown value = .ok text ∧ .literal text = e := by
  -- A text or a number goes straight to the literal, no key is looked for.
  have hshown : Expr.ofValue value = (do return .literal (← shown value)) := by
    rw [Expr.ofValue]
    cases value with
    | text s => rfl
    | brokenText codes => rfl
    | int n => rfl
    | float x => rfl
    | _ => cases h
  simp only [hshown, Loading.bind_eq_ok_iff, Loading.pure_eq_ok_iff]

theorem exprOfValue_literalRecord {value record : Value} (hnull : value.isNull = false)
    (hrecord : IsRecord [("kind", .text ExprKind.literal.name), ("text", value)] record)
    {e : Expr} :
    Expr.ofValue record = .ok e ↔ ∃ text, shown value = .ok text ∧ .literal text = e := by
  obtain ⟨entries, hcontent, hget⟩ := hrecord.exists_get?_eq (by simp)
  have hgetKind : entries.get? "kind" = some (.text ExprKind.literal.name) := by simp [hget]
  have hgetText : entries.get? "text" = some value := by simp [hget]
  have hkind : kindText entries = .ok ExprKind.literal.name :=
    kindText_eq_ok_iff.mpr ⟨_, hgetKind, rfl, rfl⟩
  rw [Expr.ofValue_mapping_eq_ok_iff hcontent]
  constructor
  -- The kind says literal, and a literal has one spelling: the text that stands under its key.
  · intro h
    obtain ⟨kind, hkind', hspells⟩ := h
    have hliteral : kind = .literal := ExprKind.eq_of_kindText hkind' hkind
    subst hliteral
    cases hspells with
    | @literal text htext =>
      obtain ⟨found, hfound, _, hshown⟩ := htext
      have hvalue : value = found := Option.some.inj (hgetText.symm.trans hfound)
      rw [← hvalue] at hshown
      exact ⟨text, hshown, rfl⟩
  · intro h
    obtain ⟨text, hshown, rfl⟩ := h
    exact ⟨.literal, hkind, .literal ⟨value, hgetText, hnull, hshown⟩⟩

/-- A text is the name that it shows. -/
theorem identifierOfValue_nameRecord {value record : Value} (hvalue : IsString value)
    (hrecord : IsRecord [("name", value)] record) :
    Identifier.ofValue record = Identifier.ofValue value := by
  have hget : (Entries.ofFields [("name", value)]).get? "name" = some value := by simp
  have hrequire : require (Entries.ofFields [("name", value)]) "name" =
      .ok ⟨value, Entries.sizeOf_get?_lt hget⟩ :=
    require_eq_ok_iff.mpr ⟨hget, isNull_of_isString hvalue⟩
  unfold Identifier.ofValue
  rw [hrecord.content_eq_of_single]
  simp only [hrequire]
  -- Any other value is no name in the short form, and the hypothesis excludes it.
  cases value with
  | text s => rfl
  | brokenText codes => rfl
  | _ => cases hvalue

/-- An identifier is the table of its name, without an alias. -/
theorem tableOfValue_tableRecord {value record : Value} (hvalue : NamesNoTable value)
    (hrecord : IsRecord [("table", value)] record) {table : TableRef} :
    TableRef.ofValue record = .ok table ↔ TableRef.ofValue value = .ok table := by
  -- The short form is read as a table without a short name.
  have hshort : TableRef.ofValue value = (do return ⟨← Identifier.ofValue value, ""⟩) := by
    unfold TableRef.ofValue
    rcases hvalue with hstring | ⟨entries, hcontent, hget⟩
    · cases value with
      | text s => rfl
      | brokenText codes => rfl
      | _ => cases hstring
    · rw [hcontent]
      simp only [hget]
  have halias : textOrEmpty (Entries.ofFields [("table", value)]) "alias" = .ok "" := rfl
  -- The key that a fault would be placed under makes no difference to what is accepted.
  have hlong : TableRef.ofValue record =
      (do return ⟨← (Identifier.ofValue value).under (.key "table"), ""⟩) := by
    rw [TableRef.ofValue, hrecord.content_eq_of_single]
    simp only [Entries.get?_ofFields_cons, if_true, halias]
    rfl
  rw [hshort, hlong]
  simp only [Loading.bind_eq_ok_iff, Loading.under_eq_ok_iff]

theorem spellsPair_iff_of_isPairOf {entry : Value × Value} {item : Value} (h : IsPairOf entry item)
    {pair : Value × Value} : SpellsPair item pair ↔ pair = entry := by
  obtain ⟨hfield, hvalue, hrecord⟩ := h
  obtain ⟨entries, hcontent, hget⟩ := hrecord.exists_get?_eq (by simp)
  -- Whatever the order of the two keys, each is found, so the pair is settled by the record.
  have hgetField : entries.get? "field" = some entry.1 := by simp [hget]
  have hgetValue : entries.get? "value" = some entry.2 := by simp [hget]
  constructor
  · intro h
    obtain ⟨entries', hcontent', ⟨field, hgetField', _, hreadField⟩,
      ⟨value, hgetValue', _, hreadValue⟩⟩ := h
    have hentries : entries = entries' := Value.mapping.inj (hcontent.symm.trans hcontent')
    subst hentries
    have hfield' : entry.1 = field := Option.some.inj (hgetField.symm.trans hgetField')
    have hvalue' : entry.2 = value := Option.some.inj (hgetValue.symm.trans hgetValue')
    cases hreadField
    cases hreadValue
    exact Prod.ext hfield'.symm hvalue'.symm
  · intro h
    subst h
    exact ⟨entries, hcontent, ⟨_, hgetField, isNull_of_isString hfield, rfl⟩,
      ⟨_, hgetValue, hvalue, rfl⟩⟩

/-- The fields and values of an insert are the same, whether in a mapping or in a list. -/
theorem spellsPairs_of_isPairOf {entries : Entries} {items : List Value}
    (h : List.Forall₂ IsPairOf entries items) {pairs : Entries} :
    List.Forall₂ SpellsPair items pairs ↔ pairs = entries := by
  induction h generalizing pairs with
  | nil => rw [List.forall₂_nil_left_iff]
  | cons hfirst _ ih =>
    rw [List.forall₂_cons_left_iff]
    simp only [spellsPair_iff_of_isPairOf hfirst, ih, exists_and_left, exists_eq_left]

/-! ### Changes inside a value -/

theorem SameParts.of_append_cons {parts : List (String × Position)} {position : Position}
    {before after : Entries} {key : String} {child child' : Value}
    (hkey : parts.lookup key = some position) (hchild : Interchangeable position child child') :
    SameParts parts (before ++ (.text key, child) :: after)
      (before ++ (.text key, child') :: after) := by
  intro name
  rcases Entries.get?_append_cons before after key name child child' with hsame | ⟨rfl, hget, hget'⟩
  · exact .inl hsame
  · exact .inr ⟨position, child, child', hkey, hget, hget', hchild⟩

theorem forall₂_append_cons {α β : Type} {R : α → β → Prop} {before after : List α} {a a' : α}
    {bs : List β} (himp : ∀ b, R a b → R a' b) (h : List.Forall₂ R (before ++ a :: after) bs) :
    List.Forall₂ R (before ++ a' :: after) bs := by
  induction before generalizing bs with
  -- What is changed stands first, so it belongs to the first result.
  | nil =>
    obtain ⟨b, rest, hfirst, hrest, rfl⟩ := List.forall₂_cons_left_iff.mp h
    exact .cons (himp b hfirst) hrest
  | cons first others ih =>
    obtain ⟨b, rest, hfirst, hrest, rfl⟩ := List.forall₂_cons_left_iff.mp h
    exact .cons hfirst (ih hrest)

section Parts

variable {position : Position} {parts : List (String × Position)} {entries entries' : Entries}
  {value value' : Value}

theorem Position.Parts.of_sameParts (h : SameParts parts entries entries')
    (hparts : Position.Parts entries position parts) : Position.Parts entries' position parts := by
  cases hparts with
  | batch => exact .batch
  | statement hkind => exact .statement (h.kindText_eq_ok rfl hkind)
  | select => exact .select
  | pair => exact .pair
  | conflict => exact .conflict
  | expression hkind => exact .expression (h.kindText_eq_ok rfl hkind)
  | column => exact .column
  -- The value under the key of the table may itself be the one that is changed.
  | table hname =>
    rcases h.cases_of_position "table" rfl with hsame | ⟨_, name', _, hname', _⟩
    · exact .table (hsame.symm.trans hname)
    · exact .table hname'

theorem batchOfValue_mapping_eq_ok_iff (hcontent : value.content = .mapping entries)
    {batch : Batch} :
    Batch.ofValue value = .ok batch ↔
      ∃ list, entries.get? "statements" = some list ∧ list.isNull = false ∧
        (Position.list .statement).ReadAs list batch := by
  -- The items are read off the list that stands under the key, before any item is read.
  have hitems : ∀ items, batchItems value = .ok items ↔
      ∃ list, entries.get? "statements" = some list ∧ list.isNull = false ∧
        list.content = .list items := by
    intro items
    unfold batchItems
    simp only [hcontent, Loading.bind_eq_ok_iff, Subtype.exists, require_eq_ok_iff]
    constructor
    · intro h
      obtain ⟨list, _, ⟨hget, hnull⟩, h⟩ := h
      split at h
      · next found hfound =>
        cases h
        exact ⟨list, hget, hnull, hfound⟩
      · cases h
    · intro h
      obtain ⟨list, hget, hnull, hlist⟩ := h
      refine ⟨list, Entries.sizeOf_get?_lt hget, ⟨hget, hnull⟩, ?_⟩
      rw [hlist]
      rfl
  rw [Batch.ofValue_eq_ok_iff]
  simp only [hitems]
  constructor
  · intro h
    obtain ⟨items, ⟨list, hget, hnull, hlist⟩, hread⟩ := h
    exact ⟨list, hget, hnull, items, hlist, hread⟩
  · intro h
    obtain ⟨list, hget, hnull, items, hlist, hread⟩ := h
    exact ⟨items, ⟨list, hget, hnull, hlist⟩, hread⟩

theorem tableOfValue_of_name (hcontent : value.content = .mapping entries) {name : Value}
    (hname : entries.get? "table" = some name) {table : TableRef} :
    TableRef.ofValue value = .ok table ↔
      Identifier.ofValue name = .ok table.table ∧
        textOrEmpty entries "alias" = .ok table.shortName := by
  unfold TableRef.ofValue
  simp only [hcontent, hname, Loading.bind_eq_ok_iff, Loading.under_eq_ok_iff,
    Loading.pure_eq_ok_iff]
  constructor
  · intro h
    obtain ⟨found, hfound, shortName, halias, rfl⟩ := h
    exact ⟨hfound, halias⟩
  · intro h
    exact ⟨table.table, h.1, table.shortName, h.2, rfl⟩

theorem exists_entries_iff (hcontent : value.content = .mapping entries) {P : Entries → Prop} :
    (∃ found, value.content = .mapping found ∧ P found) ↔ P entries := by
  constructor
  · intro h
    obtain ⟨found, hfound, hP⟩ := h
    rwa [Value.mapping.inj (hcontent.symm.trans hfound)]
  · intro h
    exact ⟨entries, hcontent, h⟩

/-- What a mapping is read as depends on its parts only, whatever the position. -/
theorem Position.Parts.readAs (hparts : Position.Parts entries position parts)
    (hcontent : value.content = .mapping entries) (hcontent' : value'.content = .mapping entries')
    (h : SameParts parts entries entries') {result : position.Result}
    (hread : position.ReadAs value result) : position.ReadAs value' result := by
  cases hparts with
  | batch =>
    -- The batch has one part, the list of its statements.
    obtain ⟨list, hget, hnull, hlist⟩ := (batchOfValue_mapping_eq_ok_iff hcontent).mp hread
    have hlist' := h.exists_readAs (.list .statement) rfl hget hnull hlist
    exact (batchOfValue_mapping_eq_ok_iff hcontent').mpr hlist'
  | @statement kind hkind =>
    obtain ⟨found, kind', hfound, hkind', hspells⟩ := Statement.ofValue_eq_ok_iff.mp hread
    have hentries : entries = found := Value.mapping.inj (hcontent.symm.trans hfound)
    subst hentries
    -- The kind that the reader finds is the one that gave the positions.
    have hsame : kind' = kind := StatementKind.eq_of_kindText hkind' hkind
    subst hsame
    exact Statement.ofValue_eq_ok_iff.mpr
      ⟨entries', kind', hcontent', h.kindText_eq_ok rfl hkind', hspells.of_sameParts h⟩
  | select =>
    have hspelled := (exists_entries_iff hcontent).mp (Select.ofValue_eq_ok_iff.mp hread)
    exact Select.ofValue_eq_ok_iff.mpr ⟨entries', hcontent', hspelled.of_sameParts h⟩
  | pair =>
    -- The value of a pair is one part of it, the field is copied as it is.
    obtain ⟨⟨field, written⟩, hpair, hname, hvalue⟩ := hread
    obtain ⟨hfield, hwritten⟩ := (exists_entries_iff hcontent).mp hpair
    obtain ⟨child, hget, hnull, hchild⟩ := hwritten
    cases hchild
    obtain ⟨child', hget', hnull', hvalue'⟩ :=
      h.exists_readAs .expression rfl hget hnull hvalue
    exact ⟨(field, child'), ⟨entries', hcontent', hfield.of_get?_eq (h.get?_eq rfl),
      ⟨child', hget', hnull', rfl⟩⟩, hname, hvalue'⟩
  | conflict =>
    obtain ⟨hcause, hset⟩ :=
      (exists_entries_iff hcontent).mp (conflictOfValue_eq_ok_iff.mp hread)
    exact conflictOfValue_eq_ok_iff.mpr ⟨entries', hcontent', h.readsExpr rfl hcause,
      h.readsList .expression rfl (fun _ _ => Iff.rfl) hset⟩
  | @expression kind hkind =>
    obtain ⟨kind', hkind', hspells⟩ := (Expr.ofValue_mapping_eq_ok_iff hcontent).mp hread
    have hsame : kind' = kind := ExprKind.eq_of_kindText hkind' hkind
    subst hsame
    exact (Expr.ofValue_mapping_eq_ok_iff hcontent').mpr
      ⟨kind', h.kindText_eq_ok rfl hkind', hspells.of_sameParts h⟩
  | column =>
    have hspelled := (exists_entries_iff hcontent).mp (Column.ofValue_eq_ok_iff.mp hread)
    exact Column.ofValue_eq_ok_iff.mpr ⟨entries', hcontent', hspelled.of_sameParts h⟩
  | @table name hname =>
    obtain ⟨hread, halias⟩ := (tableOfValue_of_name hcontent hname).mp hread
    have halias' := (textOrEmpty_eq_of_get?_eq (h.get?_eq rfl)).symm.trans halias
    -- Either the name of the table is untouched or it is the part that is changed.
    rcases h.cases_of_position "table" rfl with hsame | ⟨_, name', hold, hname', hvalues⟩
    · have hname' := hsame.symm.trans hname
      exact (tableOfValue_of_name hcontent' hname').mpr ⟨hread, halias'⟩
    · rw [Option.some.inj (hname.symm.trans hold)] at hread
      have hread' := (hvalues.readAs_iff _).mp hread
      exact (tableOfValue_of_name hcontent' hname').mpr ⟨hread', halias'⟩

theorem Interchangeable.of_sameParts (hparts : Position.Parts entries position parts)
    (hcontent : value.content = .mapping entries) (hcontent' : value'.content = .mapping entries')
    (h : SameParts parts entries entries') : Interchangeable position value value' where
  isNull_left := isNull_of_content_mapping hcontent
  isNull_right := isNull_of_content_mapping hcontent'
  readAs_iff _ := ⟨hparts.readAs hcontent hcontent' h,
    (hparts.of_sameParts h).readAs hcontent' hcontent h.symm⟩

end Parts

section Lists

variable {position : Position} {value value' child child' : Value}

theorem Interchangeable.of_item {before after : List Value}
    (hcontent : value.content = .list (before ++ child :: after))
    (hcontent' : value'.content = .list (before ++ child' :: after))
    (h : Interchangeable position child child') :
    Interchangeable (.list position) value value' where
  isNull_left := isNull_of_content_list hcontent
  isNull_right := isNull_of_content_list hcontent'
  readAs_iff results := by
    constructor
    -- The two directions are alike, with the two items in each other's place.
    · intro hread
      obtain ⟨items, hitems, hread⟩ := hread
      rw [← Value.list.inj (hcontent.symm.trans hitems)] at hread
      exact ⟨_, hcontent', forall₂_append_cons (fun _ => (h.readAs_iff _).mp) hread⟩
    · intro hread
      obtain ⟨items, hitems, hread⟩ := hread
      rw [← Value.list.inj (hcontent'.symm.trans hitems)] at hread
      exact ⟨_, hcontent, forall₂_append_cons (fun _ => (h.readAs_iff _).mpr) hread⟩

theorem Position.readAs_row_iff {row : List (String × Expr)} :
    Position.row.ReadAs value row ↔
      ∃ pairs, SpellsPairs value pairs ∧ List.Forall₂ SpellsCell pairs row := by
  show (∃ pairs, pairsOfValue value = .ok pairs ∧ rowOfPairs pairs = .ok row) ↔ _
  simp only [pairsOfValue_eq_ok_iff, rowOfPairs_eq_ok_iff]

/-- The values of an insert, when they are a mapping. -/
theorem Position.readAs_row_mapping_iff {entries : Entries} {row : List (String × Expr)}
    (hcontent : value.content = .mapping entries) :
    Position.row.ReadAs value row ↔ List.Forall₂ SpellsCell entries row := by
  rw [readAs_row_iff]
  constructor
  · intro h
    obtain ⟨pairs, hpairs, hrow⟩ := h
    cases hpairs with
    -- A list is no mapping, so the other way of spelling the pairs is out.
    | mapping hmapping => rwa [Value.mapping.inj (hcontent.symm.trans hmapping)]
    | list hlist _ => cases hcontent.symm.trans hlist
  · intro h
    exact ⟨entries, .mapping hcontent, h⟩

theorem forall₂_comp_iff {α β γ : Type} {R : α → β → Prop} {S : β → γ → Prop} {as : List α}
    {cs : List γ} :
    List.Forall₂ (fun a c => ∃ b, R a b ∧ S b c) as cs ↔
      ∃ bs, List.Forall₂ R as bs ∧ List.Forall₂ S bs cs := by
  constructor
  · intro h
    -- From the outer list to the two inner ones, the element in the middle is named item by item.
    induction h with
    | nil => exact ⟨[], .nil, .nil⟩
    | cons hfirst _ ih =>
      obtain ⟨b, hab, hbc⟩ := hfirst
      obtain ⟨bs, habs, hbcs⟩ := ih
      exact ⟨b :: bs, .cons hab habs, .cons hbc hbcs⟩
  · intro h
    obtain ⟨bs, habs, hbcs⟩ := h
    -- The elements in the middle are there already, so each pair of steps becomes one.
    induction habs generalizing cs with
    | nil =>
      cases hbcs
      exact .nil
    | cons hab _ ih =>
      cases hbcs with
      | cons hbc hbcs => exact .cons ⟨_, hab, hbc⟩ (ih hbcs)

/-- The values of an insert, when they are a list of pairs. -/
theorem Position.readAs_row_list_iff {items : List Value} {row : List (String × Expr)}
    (hcontent : value.content = .list items) :
    Position.row.ReadAs value row ↔ (Position.list .pair).ReadAs value row := by
  rw [readAs_row_iff]
  constructor
  -- A list of pairs is read in two steps: into fields and values first, into cells then.
  · intro h
    obtain ⟨pairs, hpairs, hrow⟩ := h
    cases hpairs with
    | mapping hmapping => cases hcontent.symm.trans hmapping
    | @list found _ hfound hpairs =>
      exact ⟨found, hfound, forall₂_comp_iff.mpr ⟨pairs, hpairs, hrow⟩⟩
  · intro h
    obtain ⟨found, hfound, hread⟩ := h
    obtain ⟨pairs, hpairs, hrow⟩ := forall₂_comp_iff.mp hread
    exact ⟨pairs, .list hfound hpairs, hrow⟩

/-- The values of an insert, when they are the pairs of a mapping. -/
theorem Position.readAs_row_pairs_iff {entries : Entries} {items : List Value}
    {row : List (String × Expr)} (hcontent : value.content = .list items)
    (hpairs : List.Forall₂ IsPairOf entries items) :
    Position.row.ReadAs value row ↔ List.Forall₂ SpellsCell entries row := by
  rw [readAs_row_iff]
  constructor
  · intro h
    -- A mapping is no list, so the pairs are spelled by the items.
    obtain ⟨pairs, hspells, hrow⟩ := h
    cases hspells with
    | mapping hmapping => cases hcontent.symm.trans hmapping
    | list hlist hspells =>
      rw [← Value.list.inj (hcontent.symm.trans hlist)] at hspells
      rwa [(spellsPairs_of_isPairOf hpairs).mp hspells] at hrow
  · intro hrow
    exact ⟨entries, .list hcontent ((spellsPairs_of_isPairOf hpairs).mpr rfl), hrow⟩

theorem batchOfValue_list_iff {items : List Value} (hcontent : value.content = .list items)
    {batch : Batch} :
    Batch.ofValue value = .ok batch ↔ (Position.list .statement).ReadAs value batch := by
  have hitems : batchItems value = .ok items := by
    unfold batchItems
    rw [hcontent]
  rw [Batch.ofValue_eq_ok_iff]
  constructor
  · intro h
    obtain ⟨found, hfound, hread⟩ := h
    rw [← Except.ok.inj (hitems.symm.trans hfound)] at hread
    exact ⟨items, hcontent, hread⟩
  · intro h
    obtain ⟨found, hfound, hread⟩ := h
    rw [← Value.list.inj (hcontent.symm.trans hfound)] at hread
    exact ⟨items, hitems, hread⟩

theorem batchOfValue_statementsRecord {record : Value} {items : List Value}
    (hcontent : value.content = .list items) (hrecord : IsRecord [("statements", value)] record)
    {batch : Batch} : Batch.ofValue value = .ok batch ↔ Batch.ofValue record = .ok batch := by
  have hget : (Entries.ofFields [("statements", value)]).get? "statements" = some value := by simp
  rw [batchOfValue_mapping_eq_ok_iff hrecord.content_eq_of_single, batchOfValue_list_iff hcontent]
  constructor
  · intro h
    exact ⟨value, hget, isNull_of_content_list hcontent, h⟩
  · intro h
    obtain ⟨list, hlist, _, hread⟩ := h
    rwa [Option.some.inj (hget.symm.trans hlist)]

end Lists

/-! ### Any change -/

namespace Rephrased

variable {position : Position} {value value' : Value}

/-- A value that is changed somewhere in a list is a list before and after. -/
theorem content_of_list (h : Rephrased (.list position) value value') :
    ∃ items items', value.content = .list items ∧ value'.content = .list items' := by
  cases h with
  | part _ _ hparts => cases hparts
  | item hcontent hcontent' _ => exact ⟨_, _, hcontent, hcontent'⟩

/-- One change, wherever it is made, keeps what the value is read as. -/
theorem interchangeable (h : Rephrased position value value') :
    Interchangeable position value value' := by
  induction h with
  -- Short and long form of one thing: the record has the value as its one part.
  | literal hvalue hrecord =>
    have hnull := isNull_of_isTextOrNumber hvalue
    exact ⟨hnull, hrecord.isNull_eq, fun _ =>
      (exprOfValue_of_isTextOrNumber hvalue).trans (exprOfValue_literalRecord hnull hrecord).symm⟩
  | name hvalue hrecord =>
    refine ⟨isNull_of_isString hvalue, hrecord.isNull_eq, fun name => ?_⟩
    show Identifier.ofValue _ = .ok name ↔ Identifier.ofValue _ = .ok name
    rw [identifierOfValue_nameRecord hvalue hrecord]
  | table hvalue hrecord =>
    exact ⟨isNull_of_namesNoTable hvalue, hrecord.isNull_eq, fun _ =>
      (tableOfValue_tableRecord hvalue hrecord).symm⟩
  -- The two ways to write the cells of an insert give the same cells.
  | row hcontent hcontent' hpairs =>
    exact ⟨isNull_of_content_mapping hcontent, isNull_of_content_list hcontent', fun _ =>
      (Position.readAs_row_mapping_iff hcontent).trans
        (Position.readAs_row_pairs_iff hcontent' hpairs).symm⟩
  | batch hcontent hrecord =>
    exact ⟨isNull_of_content_list hcontent, hrecord.isNull_eq, fun _ =>
      batchOfValue_statementsRecord hcontent hrecord⟩
  -- Words are compared in lower case, so how the letters are written is lost on the way.
  | @keyword text text' hlower =>
    refine ⟨rfl, rfl, fun word => ?_⟩
    have hword : keywordOfValue (.text text) = keywordOfValue (.text text') := by
      show Except.ok (Text.lower text) = Except.ok (Text.lower text')
      rw [hlower]
    show keywordOfValue (.text text) = .ok word ↔ keywordOfValue (.text text') = .ok word
    rw [hword]
  -- All the other rules pass on what holds of the part that is changed.
  | part hcontent hcontent' hparts hkey _ ih =>
    exact .of_sameParts hparts hcontent hcontent' (.of_append_cons hkey ih)
  | @cell value value' field child child' _ _ hcontent hcontent' _ ih =>
    -- The changed cell keeps its place among the cells, in front and behind all stays.
    have hforth : ∀ cell, SpellsCell (field, child) cell → SpellsCell (field, child') cell :=
      fun cell hcell => ⟨hcell.1, (ih.readAs_iff cell.2).mp hcell.2⟩
    have hback : ∀ cell, SpellsCell (field, child') cell → SpellsCell (field, child) cell :=
      fun cell hcell => ⟨hcell.1, (ih.readAs_iff cell.2).mpr hcell.2⟩
    refine ⟨isNull_of_content_mapping hcontent, isNull_of_content_mapping hcontent', ?_⟩
    intro row
    constructor
    · intro hread
      have hcells := (Position.readAs_row_mapping_iff hcontent).mp hread
      exact (Position.readAs_row_mapping_iff hcontent').mpr (forall₂_append_cons hforth hcells)
    · intro hread
      have hcells := (Position.readAs_row_mapping_iff hcontent').mp hread
      exact (Position.readAs_row_mapping_iff hcontent).mpr (forall₂_append_cons hback hcells)
  | item hcontent hcontent' _ ih => exact .of_item hcontent hcontent' ih
  -- A list of pairs stands where a row is read, and there it is read as a list.
  | pairs h ih =>
    obtain ⟨items, items', hcontent, hcontent'⟩ := h.content_of_list
    exact ⟨ih.isNull_left, ih.isNull_right, fun row =>
      (Position.readAs_row_list_iff hcontent).trans
        ((ih.readAs_iff row).trans (Position.readAs_row_list_iff hcontent').symm)⟩
  | statements h ih =>
    obtain ⟨items, items', hcontent, hcontent'⟩ := h.content_of_list
    exact ⟨ih.isNull_left, ih.isNull_right, fun batch =>
      (batchOfValue_list_iff hcontent).trans
        ((ih.readAs_iff batch).trans (batchOfValue_list_iff hcontent').symm)⟩

end Rephrased

end Document

open Document

/-- **Equivalent spellings load alike.** A document that comes from an accepted one by any number of
changes, forwards or backwards, is accepted and loads to the same statements. -/
theorem Batch.ofValue_eq_ok_of_rephrased {document document' : Value} {batch : Batch}
    (h : Relation.EqvGen (Rephrased .batch) document document')
    (hload : Batch.ofValue document = .ok batch) : Batch.ofValue document' = .ok batch := by
  have hiff : Batch.ofValue document = .ok batch ↔ Batch.ofValue document' = .ok batch := by
    clear hload
    -- The steps of the chain do not depend on the batch, so only the equivalence is carried along.
    induction h with
    | rel _ _ hchange => exact hchange.interchangeable.readAs_iff batch
    | refl _ => exact Iff.rfl
    | symm _ _ _ ih => exact ih.symm
    | trans _ _ _ _ _ ih₁ ih₂ => exact ih₁.trans ih₂
  exact hiff.mp hload

/-- A row of visits. -/
def visits : Batch := [.insert ⟨.name "app.visits", ""⟩ [("day", .literal "7")] none]

/-- The entries of an insert into visits, with the kind and the values as given. -/
def visitsEntries (kind : String) (values : Value) : Entries :=
  Entries.ofFields [("kind", .text kind),
    ("table", .mapping (Entries.ofFields [("table", .text "app.visits"), ("alias", .text "")])),
    ("values", values)]

/-- The field of the row with its value, in a mapping. -/
def visitsRow (value : Value) : Value := .mapping (Entries.ofFields [("day", value)])

/-- The literal that is written out. -/
def visitsLiteral : Value :=
  .mapping (Entries.ofFields [("kind", .text "literal"), ("text", .text "7")])

/-- The same row under the key `statements`, with the kind in capitals, and with a mapping from the
field to a literal that is written out. -/
def visitsDocument : Value :=
  .mapping (Entries.ofFields
    [("statements", .list [.mapping (visitsEntries "INSERT" (visitsRow visitsLiteral))])])

/-- A change in the only statement of a list is a change of the batch. -/
theorem rephrased_single {statement statement' : Value}
    (h : Rephrased .statement statement statement') :
    Relation.EqvGen (Rephrased .batch) (.list [statement]) (.list [statement']) :=
  .rel _ _ (.statements (@Rephrased.item _ _ _ _ _ [] [] rfl rfl h))

/-- Four changes: of the kind, of the list of pairs, of the literal, and of the batch. -/
theorem visitsDocument_loads :
    Relation.EqvGen (Rephrased .batch) visits.toValue visitsDocument ∧
      Batch.ofValue visitsDocument = .ok visits := by
  -- From the written batch to the document: capitals in the kind, the cells as a mapping, the value
  -- as a number, the list under its key.
  let pairs := Value.list [cellToValue ("day", .literal "7")]
  have hkind : kindText (visitsEntries "insert" pairs) = .ok StatementKind.insert.name :=
    kindText_ofFields (StatementKind.lower_name .insert) _
  have hkind' (values : Value) :
      kindText (visitsEntries "INSERT" values) = .ok StatementKind.insert.name := by
    rw [kindText_eq_ok_iff]
    exact ⟨.text "INSERT", by simp [visitsEntries], rfl, rfl⟩
  have hcapitals : Rephrased .statement (.mapping (visitsEntries "insert" pairs))
      (.mapping (visitsEntries "INSERT" pairs)) :=
    @Rephrased.part _ _ _ _ _ _ _ [] _ "kind" rfl rfl (.statement hkind) rfl
      (.keyword (by decide))
  have hpair : IsPairOf (.text "day", .text "7") (cellToValue ("day", .literal "7")) :=
    ⟨trivial, rfl, _, List.Perm.refl _, rfl⟩
  have hmapping : Rephrased .statement
      (.mapping (visitsEntries "INSERT" (visitsRow (.text "7"))))
      (.mapping (visitsEntries "INSERT" pairs)) :=
    @Rephrased.part _ _ _ _ _ _ _ (visitsEntries "INSERT" .null).dropLast [] "values" rfl rfl
      (.statement (hkind' _)) rfl (.row rfl rfl (.cons hpair .nil))
  have hliteral : Rephrased .statement
      (.mapping (visitsEntries "INSERT" (visitsRow (.text "7"))))
      (.mapping (visitsEntries "INSERT" (visitsRow visitsLiteral))) :=
    @Rephrased.part _ _ _ _ _ _ _ (visitsEntries "INSERT" .null).dropLast [] "values" rfl rfl
      (.statement (hkind' _)) rfl
      (@Rephrased.cell _ _ _ _ _ [] [] rfl rfl (.literal trivial ⟨_, List.Perm.refl _, rfl⟩))
  have hlist : Rephrased .batch
      (.list [.mapping (visitsEntries "INSERT" (visitsRow visitsLiteral))]) visitsDocument :=
    .batch rfl ⟨_, List.Perm.refl _, rfl⟩
  have h : Relation.EqvGen (Rephrased .batch) visits.toValue visitsDocument :=
    .trans _ _ _ (rephrased_single hcapitals) (.trans _ _ _ (rephrased_single hmapping).symm
      (.trans _ _ _ (rephrased_single hliteral) (.rel _ _ hlist)))
  have hload := (Batch.ofValue_toValue visits (by decide)).1
  exact ⟨h, Batch.ofValue_eq_ok_of_rephrased h hload⟩

end SchemaMigration
