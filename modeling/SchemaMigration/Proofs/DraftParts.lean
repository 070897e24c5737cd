import Mathlib.Data.List.Forall2
import SchemaMigration.Draft

/-!
# What drafts amount to

A draft of a node amounts to this node when each draft in it amounts to something and its place can
make of that what it asks for. What a place makes of a draft is `Draft.Makes`; with it there is one
way for each kind of draft to amount to something (`Draft.Amounts`), and these are the successes of
the computation (`Draft.toPart_eq_ok_iff`).

The computation takes the drafts in a node one after the other before any place makes something of
them, and this order decides which fault is reported. Callers that only ask what comes out use the
relation, where no order is left.
-/

namespace SchemaMigration.Draft

variable {α β : Type} {make : Part → Except Fault α}

/-! ## Runs that succeed -/

theorem bind_eq_ok_iff {first : Except Fault α} {next : α → Except Fault β} {result : β} :
    first >>= next = .ok result ↔ ∃ a, first = .ok a ∧ next a = .ok result := by
  cases first with
  | error fault => exact ⟨nofun, fun ⟨_, h, _⟩ => nomatch h⟩
  | ok a =>
    constructor
    · intro h
      exact ⟨a, rfl, h⟩
    · rintro ⟨_, ha, h⟩
      cases ha
      exact h

theorem pure_eq_ok_iff {a b : α} : (pure a : Except Fault α) = .ok b ↔ a = b :=
  ⟨Except.ok.inj, congrArg _⟩

theorem mapM_eq_ok_iff {step : α → Except Fault β} {as : List α} {bs : List β} :
    as.mapM step = .ok bs ↔ List.Forall₂ (fun a b => step a = .ok b) as bs := by
  induction as generalizing bs with
  | nil => rw [List.mapM_nil, pure_eq_ok_iff, List.forall₂_nil_left_iff, eq_comm]
  | cons first rest ih =>
    simp only [List.mapM_cons, bind_eq_ok_iff, pure_eq_ok_iff, List.forall₂_cons_left_iff, ih]
    constructor
    · rintro ⟨b, hb, others, hothers, rfl⟩
      exact ⟨b, others, hb, hothers, rfl⟩
    · rintro ⟨b, others, hb, hothers, rfl⟩
      exact ⟨b, hb, others, hothers, rfl⟩

theorem optionally_eq_ok_iff {found : Option Part} {a : Option α} :
    optionally make found = .ok a ↔ Option.Rel (fun part a => make part = .ok a) found a := by
  -- What is left out stays out, and what is given is made into something.
  cases found with
  | none =>
    constructor
    · intro h
      cases h
      exact .none
    · intro h
      cases h
      rfl
  | some part =>
    simp only [optionally, bind_eq_ok_iff, pure_eq_ok_iff]
    constructor
    · rintro ⟨b, hb, rfl⟩
      exact .some hb
    · intro h
      cases h with
      | some hb => exact ⟨_, hb, rfl⟩

/-! ## Fields -/

section Fields

variable {R : α → β → Prop}

/-- Entries of the same field whose values are related. -/
def Entrywise (R : α → β → Prop) (entry : String × α) (entry' : String × β) : Prop :=
  entry.1 = entry'.1 ∧ R entry.2 entry'.2

theorem forall₂_putField {fields : List (String × α)} {fields' : List (String × β)}
    (h : List.Forall₂ (Entrywise R) fields fields') (field : String) {a : α} {b : β} (hab : R a b) :
    List.Forall₂ (Entrywise R) (putField fields field a) (putField fields' field b) := by
  induction h with
  | nil => exact .cons ⟨rfl, hab⟩ .nil
  | @cons entry entry' rest rest' hentry hrest ih =>
    obtain ⟨name, value⟩ := entry
    obtain ⟨name', value'⟩ := entry'
    obtain rfl : name = name' := hentry.1
    -- A field is replaced where it stands, and that is at the same place in both lists.
    rw [putField, putField]
    by_cases hname : name = field
    · rw [if_pos hname, if_pos hname]
      exact .cons ⟨rfl, hab⟩ hrest
    · rw [if_neg hname, if_neg hname]
      exact .cons hentry ih

/-- Which fields a mapping has does not depend on their values. -/
theorem forall₂_fieldsOfMapping {entries : List (String × α)} {entries' : List (String × β)}
    (h : List.Forall₂ (Entrywise R) entries entries') :
    List.Forall₂ (Entrywise R) (fieldsOfMapping entries) (fieldsOfMapping entries') := by
  -- The fold starts with no fields; the induction needs any fields that are already related.
  suffices hfold : ∀ fields fields', List.Forall₂ (Entrywise R) fields fields' →
      List.Forall₂ (Entrywise R)
        (entries.foldl (fun fields entry => putField fields entry.1 entry.2) fields)
        (entries'.foldl (fun fields entry => putField fields entry.1 entry.2) fields') from
    hfold [] [] .nil
  induction h with
  | nil => exact fun fields fields' hfields => hfields
  | @cons entry entry' _ _ hentry _ ih =>
    intro fields fields' hfields
    rw [List.foldl_cons, List.foldl_cons, ← hentry.1]
    exact ih _ _ (forall₂_putField hfields entry.1 hentry.2)

end Fields

/-! ## What places make -/

/-- A place makes this of the draft: the draft amounts to something, and that is made into it. -/
def Makes (make : Part → Except Fault α) (draft : Draft) (a : α) : Prop :=
  ∃ part, toPart draft = .ok part ∧ make part = .ok a

theorem makes_list_iff {drafts : List Draft} {as : List α} :
    List.Forall₂ (Makes make) drafts as ↔
      ∃ parts, toParts drafts = .ok parts ∧ parts.mapM make = .ok as := by
  simp only [mapM_eq_ok_iff]
  -- Each draft amounts to a part of its own, so the parts are found one by one.
  induction drafts generalizing as with
  | nil =>
    simp only [toParts, Except.ok.injEq, exists_eq_left', List.forall₂_nil_left_iff]
  | cons first rest ih =>
    simp only [toParts, bind_eq_ok_iff, pure_eq_ok_iff, List.forall₂_cons_left_iff, ih]
    constructor
    · rintro ⟨a, others, ⟨part, hpart, ha⟩, ⟨parts, hparts, hothers⟩, rfl⟩
      exact ⟨part :: parts, ⟨part, hpart, parts, hparts, rfl⟩, .cons ha hothers⟩
    · rintro ⟨_, ⟨part, hpart, parts, hparts, rfl⟩, has⟩
      cases has with
      | cons ha hothers => exact ⟨_, _, ⟨part, hpart, ha⟩, ⟨parts, hparts, hothers⟩, rfl⟩

theorem makes_option_iff {found : Option Draft} {a : Option α} :
    Option.Rel (Makes make) found a ↔
      ∃ part, toOptionalPart found = .ok part ∧ optionally make part = .ok a := by
  simp only [optionally_eq_ok_iff]
  cases found with
  | none =>
    simp only [toOptionalPart, Except.ok.injEq, exists_eq_left']
    constructor
    · intro h
      cases h
      exact .none
    · intro h
      cases h
      exact .none
  | some draft =>
    simp only [toOptionalPart, bind_eq_ok_iff, pure_eq_ok_iff]
    constructor
    · intro h
      cases h with
      | some h =>
        obtain ⟨part, hpart, ha⟩ := h
        exact ⟨some part, ⟨part, hpart, rfl⟩, .some ha⟩
    · rintro ⟨_, ⟨part, hpart, rfl⟩, h⟩
      cases h with
      | some ha => exact .some ⟨part, hpart, ha⟩

/-! ## Rows -/

theorem toFields_eq_ok_iff {fields : List (String × Draft)} {cells : List (String × Part)} :
    toFields fields = .ok cells ↔
      List.Forall₂ (Entrywise fun value part => toPart value = .ok part) fields cells := by
  induction fields generalizing cells with
  | nil => simp only [toFields, Except.ok.injEq, List.forall₂_nil_left_iff, eq_comm]
  | cons entry rest ih =>
    obtain ⟨field, value⟩ := entry
    -- The name of a field is no draft and stays as it is.
    simp only [toFields, bind_eq_ok_iff, pure_eq_ok_iff, List.forall₂_cons_left_iff, ih]
    constructor
    · rintro ⟨part, hpart, others, hothers, rfl⟩
      exact ⟨(field, part), others, ⟨rfl, hpart⟩, hothers, rfl⟩
    · rintro ⟨⟨field', part⟩, others, ⟨hfield, hpart⟩, hothers, rfl⟩
      cases hfield
      exact ⟨part, hpart, others, hothers, rfl⟩

theorem mapM_cells_eq_ok_iff {cells : List (String × Part)} {row : List (String × Expr)} :
    cells.mapM (fun (field, value) => do return (field, ← value.toExpr)) = .ok row ↔
      List.Forall₂ (Entrywise fun part e => part.toExpr = .ok e) cells row := by
  rw [mapM_eq_ok_iff]
  -- A cell is made by making its value.
  have hcell : ∀ (cell : String × Part) (entry : String × Expr),
      (do return (cell.1, ← cell.2.toExpr)) = Except.ok entry ↔
        Entrywise (fun part e => part.toExpr = .ok e) cell entry := by
    rintro ⟨field, value⟩ ⟨field', e⟩
    simp only [bind_eq_ok_iff, pure_eq_ok_iff, Prod.mk.injEq, Entrywise]
    constructor
    · rintro ⟨_, he, rfl, rfl⟩
      exact ⟨rfl, he⟩
    · rintro ⟨rfl, he⟩
      exact ⟨e, he, rfl, rfl⟩
  constructor
  · exact List.Forall₂.imp fun cell entry => (hcell cell entry).mp
  · exact List.Forall₂.imp fun cell entry => (hcell cell entry).mpr

/-- The place of a row takes each value as it is made in the place of an expression. -/
theorem makes_fields_iff {fields : List (String × Draft)} {row : List (String × Expr)} :
    List.Forall₂ (Entrywise (Makes Part.toExpr)) fields row ↔
      ∃ cells, List.Forall₂ (Entrywise fun value part => toPart value = .ok part) fields cells ∧
        List.Forall₂ (Entrywise fun part e => part.toExpr = .ok e) cells row := by
  constructor
  · intro h
    -- From left to right the parts are collected; from right to left they are given.
    induction h with
    | nil => exact ⟨[], .nil, .nil⟩
    | cons hentry _ ih =>
      obtain ⟨hfield, part, hpart, he⟩ := hentry
      obtain ⟨cells, hcells, hrow⟩ := ih
      exact ⟨(_, part) :: cells, .cons ⟨rfl, hpart⟩ hcells, .cons ⟨hfield, he⟩ hrow⟩
  · rintro ⟨cells, hcells, hrow⟩
    induction hcells generalizing row with
    | nil =>
      cases hrow
      exact .nil
    | cons hentry _ ih =>
      cases hrow with
      | cons he hrest =>
        exact .cons ⟨hentry.1.trans he.1, _, hentry.2, he.2⟩ (ih hrest)

/-- What the place of the values of an insert makes of them. -/
inductive RowMakes : RowDraft → List (String × Expr) → Prop where
  | pairs {fields : List (String × Draft)} {row : List (String × Expr)}
      (h : List.Forall₂ (Entrywise (Makes Part.toExpr)) fields row) : RowMakes (.pairs fields) row
  /-- A value that is given up for a later one must amount to something all the same. -/
  | mapping {fields : List (String × Draft)} {row : List (String × Expr)}
      (hvalues : ∀ entry ∈ fields, ∃ part, toPart entry.2 = .ok part)
      (h : List.Forall₂ (Entrywise (Makes Part.toExpr)) (fieldsOfMapping fields) row) :
      RowMakes (.mapping fields) row

theorem exists_cells {fields : List (String × Draft)}
    (h : ∀ entry ∈ fields, ∃ part, toPart entry.2 = .ok part) :
    ∃ cells, List.Forall₂ (Entrywise fun value part => toPart value = .ok part) fields cells := by
  induction fields with
  | nil => exact ⟨[], .nil⟩
  | cons entry rest ih =>
    obtain ⟨⟨part, hpart⟩, hrest⟩ := List.forall_mem_cons.mp h
    obtain ⟨cells, hcells⟩ := ih hrest
    exact ⟨(entry.1, part) :: cells, .cons ⟨rfl, hpart⟩ hcells⟩

theorem exists_part_of_mem {fields : List (String × Draft)} {cells : List (String × Part)}
    (h : List.Forall₂ (Entrywise fun value part => toPart value = .ok part) fields cells) :
    ∀ entry ∈ fields, ∃ part, toPart entry.2 = .ok part := by
  induction h with
  | nil => exact List.forall_mem_nil _
  | cons hentry _ ih => exact List.forall_mem_cons.mpr ⟨⟨_, hentry.2⟩, ih⟩

theorem rightUnique_entrywise_toPart :
    Relator.RightUnique (Entrywise fun value part => toPart value = .ok part) := by
  rintro entry ⟨field, part⟩ ⟨field', part'⟩ ⟨rfl, hpart⟩ ⟨rfl, hpart'⟩
  cases hpart.symm.trans hpart'
  rfl

theorem rowMakes_iff {rowDraft : RowDraft} {row : List (String × Expr)} :
    RowMakes rowDraft row ↔ ∃ cells, toRow rowDraft = .ok cells ∧
      cells.mapM (fun (field, value) => do return (field, ← value.toExpr)) = .ok row := by
  simp only [mapM_cells_eq_ok_iff]
  cases rowDraft with
  -- The fields of a list are made as they stand, those of a mapping after the last value of each.
  | pairs fields =>
    simp only [toRow, toFields_eq_ok_iff, ← makes_fields_iff]
    constructor
    · rintro ⟨⟩
      assumption
    · exact .pairs
  | mapping fields =>
    simp only [toRow, bind_eq_ok_iff, pure_eq_ok_iff, toFields_eq_ok_iff]
    constructor
    · rintro ⟨⟩
      next hvalues h =>
        -- The mapping keeps some of the parts, and these are the ones that are made into the row.
        obtain ⟨cells, hcells⟩ := exists_cells hvalues
        obtain ⟨kept, hkept, hrow⟩ := makes_fields_iff.mp h
        have hsame := List.right_unique_forall₂' rightUnique_entrywise_toPart hkept
          (forall₂_fieldsOfMapping hcells)
        exact ⟨kept, ⟨cells, hcells, hsame.symm⟩, hrow⟩
    · rintro ⟨_, ⟨cells, hcells, rfl⟩, hrow⟩
      exact .mapping (exists_part_of_mem hcells)
        (makes_fields_iff.mpr ⟨_, forall₂_fieldsOfMapping hcells, hrow⟩)

/-! ## What a draft amounts to -/

/-- What a draft amounts to, by its kind. -/
inductive Amounts : Draft → Part → Prop where
  | text (s : String) : Amounts (.text s) (.text s)
  | plain (value : Value) : Amounts (.plain value) (.plain value)
  | unqualified (s : String) : Amounts (.unqualified s) (.node (.identifier (.name s)))
  | qualified (container base : String) :
      Amounts (.qualified container base) (.node (.identifier (.qualified container base)))
  | key (schema object field : String) :
      Amounts (.key schema object field) (.node (.key ⟨schema, object, field⟩))
  | literal (s : String) : Amounts (.literal s) (.node (.expr (.literal s)))
  | ident {identifier : Draft} {i : Identifier}
      (hidentifier : Makes Part.toIdentifier identifier i) :
      Amounts (.ident identifier) (.node (.expr (.ident i)))
  | binary {left right : Draft} {operator : String} {a b : Expr}
      (hleft : Makes Part.toExpr left a) (hright : Makes Part.toExpr right b) :
      Amounts (.binary left operator right) (.node (.expr (.binary a operator b)))
  | assign {field value : Draft} {i : Identifier} {e : Expr}
      (hfield : Makes Part.toIdentifier field i) (hvalue : Makes Part.toExpr value e) :
      Amounts (.assign field value) (.node (.expr (.assign i e)))
  | references {table : Draft} {field onDelete onUpdate : String} {i : Identifier}
      (htable : Makes Part.toIdentifier table i) :
      Amounts (.references table field onDelete onUpdate)
        (.node (.expr (.references i field onDelete onUpdate)))
  | column {name dataType : Draft} {constraints : List Draft} {i t : Identifier} {es : List Expr}
      (hname : Makes Part.toIdentifier name i) (htype : Makes Part.toIdentifier dataType t)
      (hconstraints : List.Forall₂ (Makes Part.toExpr) constraints es) :
      Amounts (.column name dataType constraints) (.node (.expr (.column (.define i t es))))
  | tableBody {columns : List Draft} {cs : List Column}
      (hcolumns : List.Forall₂ (Makes Part.toColumn) columns cs) :
      Amounts (.tableBody columns) (.node (.expr (.tableBody cs)))
  | addColumn {definition : Draft} {ifNotExists : Bool} {c : Column}
      (hdefinition : Makes Part.toColumn definition c) :
      Amounts (.addColumn definition ifNotExists) (.node (.expr (.addColumn c ifNotExists)))
  | dropColumn {name : Draft} {i : Identifier} (hname : Makes Part.toIdentifier name i) :
      Amounts (.dropColumn name) (.node (.expr (.dropColumn i)))
  | addConstraint {name body : Draft} {i : Identifier} {e : Expr}
      (hname : Makes Part.toIdentifier name i) (hbody : Makes Part.toExpr body e) :
      Amounts (.addConstraint name body) (.node (.expr (.addConstraint i e)))
  | renameTo {newName : Draft} {i : Identifier} (hname : Makes Part.toIdentifier newName i) :
      Amounts (.renameTo newName) (.node (.expr (.renameTo i)))
  | tableRef {table : Draft} {shortName : String} {i : Identifier}
      (htable : Makes Part.toIdentifier table i) :
      Amounts (.tableRef table shortName) (.node (.tableRef ⟨i, shortName⟩))
  | conflict {cause : Draft} {assignments : List Draft} {e : Expr} {es : List Expr}
      (hcause : Makes Part.toExpr cause e)
      (hassignments : List.Forall₂ (Makes Part.toExpr) assignments es) :
      Amounts (.conflict cause assignments) (.node (.conflict ⟨e, es⟩))
  | alter {noun : Value} {name action : Draft} {t : Target} {i : Identifier} {e : Expr}
      (htarget : target noun = .ok t) (hname : Makes Part.toIdentifier name i)
      (haction : Makes Part.toExpr action e) :
      Amounts (.alter noun name action) (.node (.statement (.alter t i e)))
  | create {noun : Value} {name : Draft} {body : Option Draft} {ifNotExists : Bool} {t : Target}
      {i : Identifier} {e : Option Expr} (htarget : target noun = .ok t)
      (hname : Makes Part.toIdentifier name i) (hbody : Option.Rel (Makes Part.toExpr) body e) :
      Amounts (.create noun name body ifNotExists) (.node (.statement (.create t i e ifNotExists)))
  | drop {noun : Value} {name : Draft} {t : Target} {i : Identifier}
      (htarget : target noun = .ok t) (hname : Makes Part.toIdentifier name i) :
      Amounts (.drop noun name) (.node (.statement (.drop t i)))
  | insert {table : Draft} {rowDraft : RowDraft} {onConflict : Option Draft} {t : TableRef}
      {row : List (String × Expr)} {clause : Option ConflictClause}
      (htable : Makes Part.toTableRef table t) (hrow : RowMakes rowDraft row)
      (hconflict : Option.Rel (Makes Part.toConflictClause) onConflict clause) :
      Amounts (.insert table rowDraft onConflict) (.node (.statement (.insert t row clause)))
  | update {table : Draft} {assignments : List Draft} {condition : Option Draft} {t : TableRef}
      {es : List Expr} {e : Option Expr} (htable : Makes Part.toTableRef table t)
      (hassignments : List.Forall₂ (Makes Part.toExpr) assignments es)
      (hcondition : Option.Rel (Makes Part.toExpr) condition e) :
      Amounts (.update table assignments condition) (.node (.statement (.update t es e)))
  | select {columns : List Draft} {source : Draft} {condition : Option Draft} {es : List Expr}
      {t : TableRef} {e : Option Expr} (hcolumns : List.Forall₂ (Makes Part.toExpr) columns es)
      (hsource : Makes Part.toTableRef source t)
      (hcondition : Option.Rel (Makes Part.toExpr) condition e) :
      Amounts (.select columns source condition) (.node (.statement (.select ⟨es, t, e⟩)))
  | withSelect {name : String} {inner outer : Draft} {q r : Select}
      (hinner : Makes Part.toSelect inner q) (houter : Makes Part.toSelect outer r) :
      Amounts (.withSelect name inner outer) (.node (.statement (.withSelect name q r)))

variable {draft : Draft} {part : Part}

/-- A computation that succeeds has made something in each of its places. -/
theorem amounts_of_toPart (h : toPart draft = .ok part) : Amounts draft part := by
  -- The parts of a draft are made into nodes in the order in which the constructor takes them.
  cases draft <;> simp only [toPart, bind_eq_ok_iff, pure_eq_ok_iff, Except.ok.injEq] at h
  case text s => exact h ▸ .text s
  case plain value => exact h ▸ .plain value
  case unqualified s => exact h ▸ .unqualified s
  case qualified container base => exact h ▸ .qualified container base
  case key schema object field => exact h ▸ .key schema object field
  case literal s => exact h ▸ .literal s
  case ident identifier =>
    obtain ⟨p, hp, i, hi, rfl⟩ := h
    exact .ident ⟨p, hp, hi⟩
  case binary left operator right =>
    obtain ⟨p, hp, q, hq, a, ha, b, hb, rfl⟩ := h
    exact .binary ⟨p, hp, ha⟩ ⟨q, hq, hb⟩
  case assign field value =>
    obtain ⟨p, hp, q, hq, i, hi, e, he, rfl⟩ := h
    exact .assign ⟨p, hp, hi⟩ ⟨q, hq, he⟩
  case references table field onDelete onUpdate =>
    obtain ⟨p, hp, i, hi, rfl⟩ := h
    exact .references ⟨p, hp, hi⟩
  case column name dataType constraints =>
    obtain ⟨p, hp, q, hq, ps, hps, i, hi, t, ht, es, hes, rfl⟩ := h
    exact .column ⟨p, hp, hi⟩ ⟨q, hq, ht⟩ (makes_list_iff.mpr ⟨ps, hps, hes⟩)
  case tableBody columns =>
    obtain ⟨ps, hps, cs, hcs, rfl⟩ := h
    exact .tableBody (makes_list_iff.mpr ⟨ps, hps, hcs⟩)
  case addColumn definition ifNotExists =>
    obtain ⟨p, hp, c, hc, rfl⟩ := h
    exact .addColumn ⟨p, hp, hc⟩
  case dropColumn name =>
    obtain ⟨p, hp, i, hi, rfl⟩ := h
    exact .dropColumn ⟨p, hp, hi⟩
  case addConstraint name body =>
    obtain ⟨p, hp, q, hq, i, hi, e, he, rfl⟩ := h
    exact .addConstraint ⟨p, hp, hi⟩ ⟨q, hq, he⟩
  case renameTo newName =>
    obtain ⟨p, hp, i, hi, rfl⟩ := h
    exact .renameTo ⟨p, hp, hi⟩
  case tableRef table shortName =>
    obtain ⟨p, hp, i, hi, rfl⟩ := h
    exact .tableRef ⟨p, hp, hi⟩
  case conflict cause assignments =>
    obtain ⟨p, hp, ps, hps, e, he, es, hes, rfl⟩ := h
    exact .conflict ⟨p, hp, he⟩ (makes_list_iff.mpr ⟨ps, hps, hes⟩)
  case alter noun name action =>
    obtain ⟨p, hp, q, hq, t, ht, i, hi, e, he, rfl⟩ := h
    exact .alter ht ⟨p, hp, hi⟩ ⟨q, hq, he⟩
  case create noun name body ifNotExists =>
    obtain ⟨p, hp, q, hq, t, ht, i, hi, e, he, rfl⟩ := h
    exact .create ht ⟨p, hp, hi⟩ (makes_option_iff.mpr ⟨q, hq, he⟩)
  case drop noun name =>
    obtain ⟨p, hp, t, ht, i, hi, rfl⟩ := h
    exact .drop ht ⟨p, hp, hi⟩
  case insert table rowDraft onConflict =>
    obtain ⟨p, hp, cells, hcells, q, hq, t, ht, row, hrow, clause, hclause, rfl⟩ := h
    exact .insert ⟨p, hp, ht⟩ (rowMakes_iff.mpr ⟨cells, hcells, hrow⟩)
      (makes_option_iff.mpr ⟨q, hq, hclause⟩)
  case update table assignments condition =>
    obtain ⟨p, hp, ps, hps, q, hq, t, ht, es, hes, e, he, rfl⟩ := h
    exact .update ⟨p, hp, ht⟩ (makes_list_iff.mpr ⟨ps, hps, hes⟩) (makes_option_iff.mpr ⟨q, hq, he⟩)
  case select columns source condition =>
    obtain ⟨ps, hps, p, hp, q, hq, es, hes, t, ht, e, he, rfl⟩ := h
    exact .select (makes_list_iff.mpr ⟨ps, hps, hes⟩) ⟨p, hp, ht⟩ (makes_option_iff.mpr ⟨q, hq, he⟩)
  case withSelect name inner outer =>
    obtain ⟨p, hp, q, hq, a, ha, b, hb, rfl⟩ := h
    exact .withSelect ⟨p, hp, ha⟩ ⟨q, hq, hb⟩

/-- Where something can be made in each place, the computation succeeds. -/
theorem toPart_of_amounts (h : Amounts draft part) : toPart draft = .ok part := by
  -- The same cases backwards: each part that was made is handed on.
  cases h <;> simp only [toPart, bind_eq_ok_iff, pure_eq_ok_iff]
  case ident hidentifier =>
    obtain ⟨p, hp, hi⟩ := hidentifier
    exact ⟨p, hp, _, hi, rfl⟩
  case binary hleft hright =>
    obtain ⟨p, hp, ha⟩ := hleft
    obtain ⟨q, hq, hb⟩ := hright
    exact ⟨p, hp, q, hq, _, ha, _, hb, rfl⟩
  case assign hfield hvalue =>
    obtain ⟨p, hp, hi⟩ := hfield
    obtain ⟨q, hq, he⟩ := hvalue
    exact ⟨p, hp, q, hq, _, hi, _, he, rfl⟩
  case references htable =>
    obtain ⟨p, hp, hi⟩ := htable
    exact ⟨p, hp, _, hi, rfl⟩
  case column hname htype hconstraints =>
    obtain ⟨p, hp, hi⟩ := hname
    obtain ⟨q, hq, ht⟩ := htype
    obtain ⟨ps, hps, hes⟩ := makes_list_iff.mp hconstraints
    exact ⟨p, hp, q, hq, ps, hps, _, hi, _, ht, _, hes, rfl⟩
  case tableBody hcolumns =>
    obtain ⟨ps, hps, hcs⟩ := makes_list_iff.mp hcolumns
    exact ⟨ps, hps, _, hcs, rfl⟩
  case addColumn hdefinition =>
    obtain ⟨p, hp, hc⟩ := hdefinition
    exact ⟨p, hp, _, hc, rfl⟩
  case dropColumn hname =>
    obtain ⟨p, hp, hi⟩ := hname
    exact ⟨p, hp, _, hi, rfl⟩
  case addConstraint hname hbody =>
    obtain ⟨p, hp, hi⟩ := hname
    obtain ⟨q, hq, he⟩ := hbody
    exact ⟨p, hp, q, hq, _, hi, _, he, rfl⟩
  case renameTo hname =>
    obtain ⟨p, hp, hi⟩ := hname
    exact ⟨p, hp, _, hi, rfl⟩
  case tableRef htable =>
    obtain ⟨p, hp, hi⟩ := htable
    exact ⟨p, hp, _, hi, rfl⟩
  case conflict hcause hassignments =>
    obtain ⟨p, hp, he⟩ := hcause
    obtain ⟨ps, hps, hes⟩ := makes_list_iff.mp hassignments
    exact ⟨p, hp, ps, hps, _, he, _, hes, rfl⟩
  case alter htarget hname haction =>
    obtain ⟨p, hp, hi⟩ := hname
    obtain ⟨q, hq, he⟩ := haction
    exact ⟨p, hp, q, hq, _, htarget, _, hi, _, he, rfl⟩
  case create htarget hname hbody =>
    obtain ⟨p, hp, hi⟩ := hname
    obtain ⟨q, hq, he⟩ := makes_option_iff.mp hbody
    exact ⟨p, hp, q, hq, _, htarget, _, hi, _, he, rfl⟩
  case drop htarget hname =>
    obtain ⟨p, hp, hi⟩ := hname
    exact ⟨p, hp, _, htarget, _, hi, rfl⟩
  case insert htable hrow hconflict =>
    obtain ⟨p, hp, ht⟩ := htable
    obtain ⟨cells, hcells, hrow⟩ := rowMakes_iff.mp hrow
    obtain ⟨q, hq, hclause⟩ := makes_option_iff.mp hconflict
    exact ⟨p, hp, cells, hcells, q, hq, _, ht, _, hrow, _, hclause, rfl⟩
  case update htable hassignments hcondition =>
    obtain ⟨p, hp, ht⟩ := htable
    obtain ⟨ps, hps, hes⟩ := makes_list_iff.mp hassignments
    obtain ⟨q, hq, he⟩ := makes_option_iff.mp hcondition
    exact ⟨p, hp, ps, hps, q, hq, _, ht, _, hes, _, he, rfl⟩
  case select hcolumns hsource hcondition =>
    obtain ⟨ps, hps, hes⟩ := makes_list_iff.mp hcolumns
    obtain ⟨p, hp, ht⟩ := hsource
    obtain ⟨q, hq, he⟩ := makes_option_iff.mp hcondition
    exact ⟨ps, hps, p, hp, q, hq, _, hes, _, ht, _, he, rfl⟩
  case withSelect hinner houter =>
    obtain ⟨p, hp, ha⟩ := hinner
    obtain ⟨q, hq, hb⟩ := houter
    exact ⟨p, hp, q, hq, _, ha, _, hb, rfl⟩

theorem toPart_eq_ok_iff : toPart draft = .ok part ↔ Amounts draft part :=
  ⟨amounts_of_toPart, toPart_of_amounts⟩

/-- What a place makes of a draft, with what the draft amounts to. -/
theorem makes_iff {a : α} : Makes make draft a ↔ ∃ part, Amounts draft part ∧ make part = .ok a :=
  exists_congr fun _ => and_congr_left fun _ => toPart_eq_ok_iff

end SchemaMigration.Draft
