import SchemaMigration.Proofs.WrittenOut

/-!
# The form of a draft leaves no trace

A draft and its written-out form build the same node (`Draft.build_writtenOut`). A place does not
see a part itself but only what it makes of it, and it makes the same of a text as of the node that
is written out for it (`Draft.makes_asExpr_iff` and its like).

One thing is not kept. A mapping that is written down with a repeated field gives up the earlier
value, and as pairs it does not hold this value any more; if the value fails to build then so does
the mapping but not the pairs. Where no mapping repeats a field (`Draft.FieldsOnce`), the draft
builds whatever its written-out form does (`Draft.build_of_writtenOut`).
-/

namespace SchemaMigration

namespace Draft

/-! ## Fields that are set once -/

mutual

/-- Each mapping in the draft sets each of its fields once. -/
def FieldsOnce : Draft → Prop
  | text _ | plain _ | unqualified _ | qualified _ _ | key _ _ _ | literal _ => True
  | ident identifier => identifier.FieldsOnce
  | binary left _ right => left.FieldsOnce ∧ right.FieldsOnce
  | assign field value => field.FieldsOnce ∧ value.FieldsOnce
  | references table _ _ _ => table.FieldsOnce
  | column name dataType constraints =>
    name.FieldsOnce ∧ dataType.FieldsOnce ∧ AllFieldsOnce constraints
  | tableBody columns => AllFieldsOnce columns
  | addColumn definition _ => definition.FieldsOnce
  | dropColumn name => name.FieldsOnce
  | addConstraint name body => name.FieldsOnce ∧ body.FieldsOnce
  | renameTo newName => newName.FieldsOnce
  | tableRef table _ => table.FieldsOnce
  | conflict cause assignments => cause.FieldsOnce ∧ AllFieldsOnce assignments
  | alter _ name action => name.FieldsOnce ∧ action.FieldsOnce
  | create _ name body _ => name.FieldsOnce ∧ OptionFieldsOnce body
  | drop _ name => name.FieldsOnce
  | insert table row onConflict =>
    table.FieldsOnce ∧ RowFieldsOnce row ∧ OptionFieldsOnce onConflict
  | update table assignments condition =>
    table.FieldsOnce ∧ AllFieldsOnce assignments ∧ OptionFieldsOnce condition
  | select columns source condition =>
    AllFieldsOnce columns ∧ source.FieldsOnce ∧ OptionFieldsOnce condition
  | withSelect _ inner outer => inner.FieldsOnce ∧ outer.FieldsOnce

/-- The same for each of several drafts. -/
def AllFieldsOnce : List Draft → Prop
  | [] => True
  | first :: rest => first.FieldsOnce ∧ AllFieldsOnce rest

/-- The same for a draft that may be absent. -/
def OptionFieldsOnce : Option Draft → Prop
  | none => True
  | some draft => draft.FieldsOnce

/-- The same for the values of fields. -/
def ValuesFieldsOnce : List (String × Draft) → Prop
  | [] => True
  | (_, value) :: rest => value.FieldsOnce ∧ ValuesFieldsOnce rest

/-- The same for the values of an insert; pairs may repeat a field. -/
def RowFieldsOnce : RowDraft → Prop
  | .pairs fields => ValuesFieldsOnce fields
  | .mapping fields => (fields.map Prod.fst).Nodup ∧ ValuesFieldsOnce fields

end

/-! ## Places -/

variable {α : Type} {make : Part → Except Fault α} {draft draft' : Draft} {a : α}

/-- A place makes the same of a text and of what is written for it. -/
theorem makes_spelledBy_iff {write : String → Draft}
    (hwrite : ∀ s, ∃ part, toPart (write s) = .ok part ∧ make part = make (.text s)) :
    Makes make (spelledBy write draft) a ↔ Makes make draft a := by
  cases draft with
  | text s =>
    obtain ⟨part, hpart, hmake⟩ := hwrite s
    simp only [Makes, spelledBy, hpart, toPart, Except.ok.injEq, exists_eq_left', hmake]
  | _ => exact Iff.rfl

theorem makes_asIdentifier_iff {i : Identifier} :
    Makes Part.toIdentifier draft.asIdentifier i ↔ Makes Part.toIdentifier draft i :=
  makes_spelledBy_iff fun s => ⟨.node (.identifier (.name s)), by rw [toPart], rfl⟩

theorem makes_asExpr_iff {e : Expr} :
    Makes Part.toExpr draft.asExpr e ↔ Makes Part.toExpr draft e :=
  makes_spelledBy_iff fun s => ⟨.node (.expr (.literal s)), by rw [toPart], rfl⟩

theorem makes_asTableRef_iff {t : TableRef} :
    Makes Part.toTableRef draft.asTableRef t ↔ Makes Part.toTableRef draft t :=
  makes_spelledBy_iff fun s =>
    ⟨.node (.tableRef ⟨.name s, ""⟩), toPart_tableRef ⟨.name s, ""⟩, rfl⟩

theorem makes_map_asExpr_iff {drafts : List Draft} {es : List Expr} :
    List.Forall₂ (Makes Part.toExpr) (drafts.map asExpr) es ↔
      List.Forall₂ (Makes Part.toExpr) drafts es := by
  simp only [List.forall₂_map_left_iff, makes_asExpr_iff]

theorem makes_option_asExpr_iff {found : Option Draft} {e : Option Expr} :
    Option.Rel (Makes Part.toExpr) (found.map asExpr) e ↔
      Option.Rel (Makes Part.toExpr) found e := by
  cases found with
  | none => exact Iff.rfl
  | some draft =>
    rw [Option.map_some]
    constructor
    -- What is made of the node that is written out is what the text is made into, and back.
    · rintro ⟨⟩
      next h => exact .some (makes_asExpr_iff.mp h)
    · rintro ⟨⟩
      next h => exact .some (makes_asExpr_iff.mpr h)

theorem makes_cells_asExpr_iff {fields : List (String × Draft)} {row : List (String × Expr)} :
    List.Forall₂ (Entrywise (Makes Part.toExpr)) (fields.map cellAsExpr) row ↔
      List.Forall₂ (Entrywise (Makes Part.toExpr)) fields row := by
  rw [List.forall₂_map_left_iff]
  unfold Entrywise cellAsExpr
  simp only [makes_asExpr_iff]

/-! ## Drafts that amount to no less -/

/-- The second draft amounts to whatever the first one does. -/
def Implies (draft draft' : Draft) : Prop := ∀ part, Amounts draft part → Amounts draft' part

namespace Implies

theorem makes (h : Implies draft draft') (hmakes : Makes make draft a) : Makes make draft' a := by
  obtain ⟨part, hpart, ha⟩ := makes_iff.mp hmakes
  exact makes_iff.mpr ⟨part, h part hpart, ha⟩

theorem asIdentifier {i : Identifier} (h : Implies draft draft')
    (hmakes : Makes Part.toIdentifier draft i) : Makes Part.toIdentifier draft'.asIdentifier i :=
  makes_asIdentifier_iff.mpr (h.makes hmakes)

theorem asExpr {e : Expr} (h : Implies draft draft') (hmakes : Makes Part.toExpr draft e) :
    Makes Part.toExpr draft'.asExpr e :=
  makes_asExpr_iff.mpr (h.makes hmakes)

theorem asTableRef {t : TableRef} (h : Implies draft draft')
    (hmakes : Makes Part.toTableRef draft t) : Makes Part.toTableRef draft'.asTableRef t :=
  makes_asTableRef_iff.mpr (h.makes hmakes)

theorem of_asIdentifier {i : Identifier} (h : Implies draft draft')
    (hmakes : Makes Part.toIdentifier draft.asIdentifier i) : Makes Part.toIdentifier draft' i :=
  h.makes (makes_asIdentifier_iff.mp hmakes)

theorem of_asExpr {e : Expr} (h : Implies draft draft')
    (hmakes : Makes Part.toExpr draft.asExpr e) : Makes Part.toExpr draft' e :=
  h.makes (makes_asExpr_iff.mp hmakes)

theorem of_asTableRef {t : TableRef} (h : Implies draft draft')
    (hmakes : Makes Part.toTableRef draft.asTableRef t) : Makes Part.toTableRef draft' t :=
  h.makes (makes_asTableRef_iff.mp hmakes)

theorem makes_list {drafts drafts' : List Draft} {as : List α}
    (h : List.Forall₂ Implies drafts drafts') (hmakes : List.Forall₂ (Makes make) drafts as) :
    List.Forall₂ (Makes make) drafts' as := by
  induction h generalizing as with
  | nil => exact hmakes
  | cons hfirst _ ih =>
    cases hmakes with
    | cons ha has => exact .cons (hfirst.makes ha) (ih has)

theorem makes_option {found found' : Option Draft} {a? : Option α}
    (h : Option.Rel Implies found found') (hmakes : Option.Rel (Makes make) found a?) :
    Option.Rel (Makes make) found' a? := by
  cases h with
  | none => exact hmakes
  | some h =>
    cases hmakes with
    | some ha => exact .some (h.makes ha)

theorem makes_fields {fields fields' : List (String × Draft)} {row : List (String × α)}
    (h : List.Forall₂ (Entrywise Implies) fields fields')
    (hmakes : List.Forall₂ (Entrywise (Makes make)) fields row) :
    List.Forall₂ (Entrywise (Makes make)) fields' row := by
  induction h generalizing row with
  | nil => exact hmakes
  -- Fields are compared by name, so the rows agree item by item.
  | cons hfirst _ ih =>
    cases hmakes with
    | cons ha has => exact .cons ⟨hfirst.1.symm.trans ha.1, hfirst.2.makes ha.2⟩ (ih has)

end Implies

/-! ## What is written out amounts to the same -/

mutual

/-- Induction over the draft: what a place makes of a part it makes of the part written out. -/
theorem implies_writtenOut : ∀ draft : Draft, Implies draft draft.writtenOut
  -- A form that names no part is its own written-out form.
  | .text _, _, h => h
  | .plain _, _, h => h
  | .unqualified _, _, h => h
  | .qualified _ _, _, h => h
  | .key _ _ _, _, h => h
  | .literal _, _, h => h
  -- At a place for an identifier or an expression the text and its node are made into the same.
  | .ident identifier, _, .ident hidentifier =>
    .ident ((implies_writtenOut identifier).asIdentifier hidentifier)
  | .binary left _ right, _, .binary hleft hright =>
    .binary ((implies_writtenOut left).asExpr hleft)
      ((implies_writtenOut right).asExpr hright)
  | .assign field value, _, .assign hfield hvalue =>
    .assign ((implies_writtenOut field).asIdentifier hfield)
      ((implies_writtenOut value).asExpr hvalue)
  | .references table _ _ _, _, .references htable =>
    .references ((implies_writtenOut table).asIdentifier htable)
  | .column name dataType constraints, _, .column hname htype hconstraints =>
    .column ((implies_writtenOut name).asIdentifier hname)
      ((implies_writtenOut dataType).asIdentifier htype)
      (makes_map_asExpr_iff.mpr (Implies.makes_list (implies_writtenOuts constraints) hconstraints))
  | .tableBody columns, _, .tableBody hcolumns =>
    .tableBody (Implies.makes_list (implies_writtenOuts columns) hcolumns)
  | .addColumn definition _, _, .addColumn hdefinition =>
    .addColumn ((implies_writtenOut definition).makes hdefinition)
  | .dropColumn name, _, .dropColumn hname =>
    .dropColumn ((implies_writtenOut name).asIdentifier hname)
  | .addConstraint name body, _, .addConstraint hname hbody =>
    .addConstraint ((implies_writtenOut name).asIdentifier hname)
      ((implies_writtenOut body).asExpr hbody)
  | .renameTo newName, _, .renameTo hname =>
    .renameTo ((implies_writtenOut newName).asIdentifier hname)
  | .tableRef table _, _, .tableRef htable =>
    .tableRef ((implies_writtenOut table).asIdentifier htable)
  | .conflict cause assignments, _, .conflict hcause hassignments =>
    .conflict ((implies_writtenOut cause).asExpr hcause)
      (makes_map_asExpr_iff.mpr (Implies.makes_list (implies_writtenOuts assignments) hassignments))
  | .alter _ name action, _, .alter htarget hname haction =>
    .alter htarget ((implies_writtenOut name).asIdentifier hname)
      ((implies_writtenOut action).asExpr haction)
  | .create _ name body _, _, .create htarget hname hbody =>
    .create htarget ((implies_writtenOut name).asIdentifier hname)
      (makes_option_asExpr_iff.mpr (Implies.makes_option (implies_writtenOutOption body) hbody))
  | .drop _ name, _, .drop htarget hname =>
    .drop htarget ((implies_writtenOut name).asIdentifier hname)
  -- The row is the one part in which a mapping may become pairs.
  | .insert table row onConflict, _, .insert htable hrow hconflict =>
    .insert ((implies_writtenOut table).asTableRef htable)
      (rowMakes_writtenOut row hrow)
      (Implies.makes_option (implies_writtenOutOption onConflict) hconflict)
  | .update table assignments condition, _, .update htable hassignments hcondition =>
    .update ((implies_writtenOut table).asTableRef htable)
      (makes_map_asExpr_iff.mpr (Implies.makes_list (implies_writtenOuts assignments) hassignments))
      (makes_option_asExpr_iff.mpr
        (Implies.makes_option (implies_writtenOutOption condition) hcondition))
  | .select columns source condition, _, .select hcolumns hsource hcondition =>
    .select (makes_map_asExpr_iff.mpr (Implies.makes_list (implies_writtenOuts columns) hcolumns))
      ((implies_writtenOut source).asTableRef hsource)
      (makes_option_asExpr_iff.mpr
        (Implies.makes_option (implies_writtenOutOption condition) hcondition))
  | .withSelect _ inner outer, _, .withSelect hinner houter =>
    .withSelect ((implies_writtenOut inner).makes hinner) ((implies_writtenOut outer).makes houter)

theorem implies_writtenOuts : ∀ drafts : List Draft,
    List.Forall₂ Implies drafts (writtenOuts drafts)
  | [] => .nil
  | first :: rest => .cons (implies_writtenOut first) (implies_writtenOuts rest)

theorem implies_writtenOutOption : ∀ found : Option Draft,
    Option.Rel Implies found (writtenOutOption found)
  | none => .none
  | some draft => .some (implies_writtenOut draft)

theorem implies_writtenOutFields : ∀ fields : List (String × Draft),
    List.Forall₂ (Entrywise Implies) fields (writtenOutFields fields)
  | [] => .nil
  | (_, value) :: rest => .cons ⟨rfl, implies_writtenOut value⟩ (implies_writtenOutFields rest)

theorem rowMakes_writtenOut : ∀ (rowDraft : RowDraft) {row : List (String × Expr)},
    RowMakes rowDraft row → RowMakes (writtenOutRow rowDraft) row
  | .pairs fields, _, .pairs h =>
    .pairs (makes_cells_asExpr_iff.mpr (Implies.makes_fields (implies_writtenOutFields fields) h))
  | .mapping fields, _, .mapping _ h =>
    .pairs (makes_cells_asExpr_iff.mpr
      (Implies.makes_fields (forall₂_fieldsOfMapping (implies_writtenOutFields fields)) h))

end

/-! ## Without repeated fields nothing else builds -/

section Fields

variable {α : Type}

theorem putField_of_not_mem {fields : List (String × α)} {field : String}
    (h : field ∉ fields.map Prod.fst) (a : α) :
    putField fields field a = fields ++ [(field, a)] := by
  induction fields with
  | nil => rfl
  | cons entry rest ih =>
    rw [List.map_cons, List.mem_cons, not_or] at h
    rw [putField, if_neg (Ne.symm h.1), ih h.2, List.cons_append]

/-- A mapping that sets each of its fields once has the fields that are written. -/
theorem fieldsOfMapping_of_nodup {entries : List (String × α)}
    (h : (entries.map Prod.fst).Nodup) : fieldsOfMapping entries = entries := by
  suffices hfold : ∀ fields : List (String × α), ((fields ++ entries).map Prod.fst).Nodup →
      entries.foldl (fun fields entry => putField fields entry.1 entry.2) fields =
        fields ++ entries from
    hfold [] h
  -- The fields so far and those to come are all different, which the induction carries along.
  clear h
  induction entries with
  | nil =>
    intro fields _
    rw [List.foldl_nil, List.append_nil]
  -- A field that is not there yet goes to the end.
  | cons entry rest ih =>
    intro fields hfields
    have hnew : entry.1 ∉ fields.map Prod.fst := by
      intro hmem
      rw [List.map_append, List.nodup_append] at hfields
      exact hfields.2.2 entry.1 hmem entry.1 List.mem_cons_self rfl
    rw [List.foldl_cons, putField_of_not_mem hnew]
    rw [List.append_cons fields entry rest] at hfields ⊢
    exact ih (fields ++ [entry]) hfields

end Fields

theorem map_fst_writtenOutFields (fields : List (String × Draft)) :
    (writtenOutFields fields).map Prod.fst = fields.map Prod.fst := by
  induction fields with
  | nil => rw [writtenOutFields]
  | cons cell rest ih => rw [writtenOutFields, List.map_cons, List.map_cons, ih]

theorem exists_part_of_makes {fields : List (String × Draft)} {row : List (String × α)}
    (h : List.Forall₂ (Entrywise (Makes make)) fields row) :
    ∀ entry ∈ fields, ∃ part, toPart entry.2 = .ok part := by
  induction h with
  | nil => exact List.forall_mem_nil _
  | cons hentry _ ih =>
    obtain ⟨-, part, hpart, -⟩ := hentry
    exact List.forall_mem_cons.mpr ⟨⟨part, hpart⟩, ih⟩

mutual

/-- Induction over the draft, in the other direction: a place has made of the part itself what it
makes of the part written out. -/
theorem implies_of_writtenOut : ∀ draft : Draft, draft.FieldsOnce →
    Implies draft.writtenOut draft
  -- Backwards nothing is to show for a form that names no part.
  | .text _, _, _, h => h
  | .plain _, _, _, h => h
  | .unqualified _, _, _, h => h
  | .qualified _ _, _, _, h => h
  | .key _ _ _, _, _, h => h
  | .literal _, _, _, h => h
  | .ident identifier, once, _, .ident hidentifier =>
    .ident ((implies_of_writtenOut identifier once).of_asIdentifier hidentifier)
  | .binary left _ right, once, _, .binary hleft hright =>
    .binary ((implies_of_writtenOut left once.1).of_asExpr hleft)
      ((implies_of_writtenOut right once.2).of_asExpr hright)
  | .assign field value, once, _, .assign hfield hvalue =>
    .assign ((implies_of_writtenOut field once.1).of_asIdentifier hfield)
      ((implies_of_writtenOut value once.2).of_asExpr hvalue)
  | .references table _ _ _, once, _, .references htable =>
    .references ((implies_of_writtenOut table once).of_asIdentifier htable)
  | .column name dataType constraints, once, _, .column hname htype hconstraints =>
    .column ((implies_of_writtenOut name once.1).of_asIdentifier hname)
      ((implies_of_writtenOut dataType once.2.1).of_asIdentifier htype)
      (Implies.makes_list (implies_of_writtenOuts constraints once.2.2)
        (makes_map_asExpr_iff.mp hconstraints))
  | .tableBody columns, once, _, .tableBody hcolumns =>
    .tableBody (Implies.makes_list (implies_of_writtenOuts columns once) hcolumns)
  | .addColumn definition _, once, _, .addColumn hdefinition =>
    .addColumn ((implies_of_writtenOut definition once).makes hdefinition)
  | .dropColumn name, once, _, .dropColumn hname =>
    .dropColumn ((implies_of_writtenOut name once).of_asIdentifier hname)
  | .addConstraint name body, once, _, .addConstraint hname hbody =>
    .addConstraint ((implies_of_writtenOut name once.1).of_asIdentifier hname)
      ((implies_of_writtenOut body once.2).of_asExpr hbody)
  | .renameTo newName, once, _, .renameTo hname =>
    .renameTo ((implies_of_writtenOut newName once).of_asIdentifier hname)
  | .tableRef table _, once, _, .tableRef htable =>
    .tableRef ((implies_of_writtenOut table once).of_asIdentifier htable)
  | .conflict cause assignments, once, _, .conflict hcause hassignments =>
    .conflict ((implies_of_writtenOut cause once.1).of_asExpr hcause)
      (Implies.makes_list (implies_of_writtenOuts assignments once.2)
        (makes_map_asExpr_iff.mp hassignments))
  | .alter _ name action, once, _, .alter htarget hname haction =>
    .alter htarget ((implies_of_writtenOut name once.1).of_asIdentifier hname)
      ((implies_of_writtenOut action once.2).of_asExpr haction)
  | .create _ name body _, once, _, .create htarget hname hbody =>
    .create htarget ((implies_of_writtenOut name once.1).of_asIdentifier hname)
      (Implies.makes_option (implies_of_writtenOutOption body once.2)
        (makes_option_asExpr_iff.mp hbody))
  | .drop _ name, once, _, .drop htarget hname =>
    .drop htarget ((implies_of_writtenOut name once).of_asIdentifier hname)
  -- The row needs that its own fields stand once, the parts take care of theirs.
  | .insert table row onConflict, once, _, .insert htable hrow hconflict =>
    .insert ((implies_of_writtenOut table once.1).of_asTableRef htable)
      (rowMakes_of_writtenOut row once.2.1 hrow)
      (Implies.makes_option (implies_of_writtenOutOption onConflict once.2.2) hconflict)
  | .update table assignments condition, once, _, .update htable hassignments hcondition =>
    .update ((implies_of_writtenOut table once.1).of_asTableRef htable)
      (Implies.makes_list (implies_of_writtenOuts assignments once.2.1)
        (makes_map_asExpr_iff.mp hassignments))
      (Implies.makes_option (implies_of_writtenOutOption condition once.2.2)
        (makes_option_asExpr_iff.mp hcondition))
  | .select columns source condition, once, _, .select hcolumns hsource hcondition =>
    .select (Implies.makes_list (implies_of_writtenOuts columns once.1)
        (makes_map_asExpr_iff.mp hcolumns))
      ((implies_of_writtenOut source once.2.1).of_asTableRef hsource)
      (Implies.makes_option (implies_of_writtenOutOption condition once.2.2)
        (makes_option_asExpr_iff.mp hcondition))
  | .withSelect _ inner outer, once, _, .withSelect hinner houter =>
    .withSelect ((implies_of_writtenOut inner once.1).makes hinner)
      ((implies_of_writtenOut outer once.2).makes houter)

theorem implies_of_writtenOuts : ∀ drafts : List Draft, AllFieldsOnce drafts →
    List.Forall₂ Implies (writtenOuts drafts) drafts
  | [], _ => .nil
  | first :: rest, once =>
    .cons (implies_of_writtenOut first once.1) (implies_of_writtenOuts rest once.2)

theorem implies_of_writtenOutOption : ∀ found : Option Draft, OptionFieldsOnce found →
    Option.Rel Implies (writtenOutOption found) found
  | none, _ => .none
  | some draft, once => .some (implies_of_writtenOut draft once)

theorem implies_of_writtenOutFields : ∀ fields : List (String × Draft), ValuesFieldsOnce fields →
    List.Forall₂ (Entrywise Implies) (writtenOutFields fields) fields
  | [], _ => .nil
  | (_, value) :: rest, once =>
    .cons ⟨rfl, implies_of_writtenOut value once.1⟩ (implies_of_writtenOutFields rest once.2)

theorem rowMakes_of_writtenOut : ∀ (rowDraft : RowDraft) {row : List (String × Expr)},
    RowFieldsOnce rowDraft → RowMakes (writtenOutRow rowDraft) row → RowMakes rowDraft row
  -- Pairs are never thinned out, repeated fields or not.
  | .pairs fields, _, once, .pairs h =>
    .pairs (Implies.makes_fields (implies_of_writtenOutFields fields once)
      (makes_cells_asExpr_iff.mp h))
  | .mapping fields, row, once, .pairs h => by
    have hnames : ((writtenOutFields fields).map Prod.fst).Nodup := by
      rw [map_fst_writtenOutFields]
      exact once.1
    rw [fieldsOfMapping_of_nodup hnames] at h
    have hmakes := Implies.makes_fields (implies_of_writtenOutFields fields once.2)
      (makes_cells_asExpr_iff.mp h)
    -- No field is given up, so every value is made into one of the row.
    refine .mapping (exists_part_of_makes hmakes) ?_
    rw [fieldsOfMapping_of_nodup once.1]
    exact hmakes

end

/-! ## What is built -/

/-- What builds a node builds this node when it is written out. -/
theorem build_writtenOut {draft : Draft} {n : Node} (h : draft.build = .ok n) :
    draft.writtenOut.build = .ok n := by
  rw [build_eq_ok_iff, toPart_eq_ok_iff] at h ⊢
  exact implies_writtenOut draft _ h

/-- Without repeated fields, a draft builds what it builds when it is written out. -/
theorem build_of_writtenOut {draft : Draft} {n : Node} (honce : draft.FieldsOnce)
    (h : draft.writtenOut.build = .ok n) : draft.build = .ok n := by
  rw [build_eq_ok_iff, toPart_eq_ok_iff] at h ⊢
  exact implies_of_writtenOut draft honce _ h

end Draft

/-! ## The form leaves no trace -/

/-- **The form that a caller chooses leaves no trace.** Every node is built once more from its own
parts, and in these there is nothing to be written out. A draft that builds the node builds it also
when it is written out, with a name, a literal or a table reference for each text and pairs for each
mapping, so that nothing stands for something else any more. And every other draft of the same
written-out form, whatever it leaves to be made of texts and mappings, builds this node too if its
mappings repeat no field, and no other node in any case; so the text of the node, what it depends on
and what it solves do not depend on the form. -/
theorem Draft.build_regardless_of_form (draft : Draft) (n : Node) :
    (n.toDraft.build = .ok n ∧ n.toDraft.writtenOut = n.toDraft) ∧
      (draft.build = .ok n →
        (draft.writtenOut.build = .ok n ∧ draft.writtenOut.Explicit) ∧
          ∀ other : Draft, other.writtenOut = draft.writtenOut →
            (other.FieldsOnce → other.build = .ok n) ∧ ∀ m, other.build = .ok m → m = n) := by
  refine ⟨⟨n.build_toDraft, n.writtenOut_toDraft⟩, fun h => ?_⟩
  have hwritten := Draft.build_writtenOut h
  refine ⟨⟨hwritten, Draft.explicit_writtenOut h⟩, fun other heq => ⟨?_, ?_⟩⟩
  -- Through the common form: forward to it from the draft, back from it to the other.
  · intro honce
    refine Draft.build_of_writtenOut honce ?_
    rw [heq]
    exact hwritten
  -- Both build what the common form builds.
  · intro m hm
    have hother := Draft.build_writtenOut hm
    rw [heq, hwritten] at hother
    exact (Except.ok.inj hother).symm

/-- An insert whose mapping sets a field twice, and the same insert with other parts left as texts.
-/
theorem build_regardless_of_form_insert :
    let draft : Draft :=
      .insert (.text "shop.items")
        (.mapping [("price", .text "1"), ("name", .literal "'tea'"), ("price", .text "2")])
        (some (.conflict (.literal "(name)") [.assign (.text "price") (.literal "2")]))
    let other : Draft :=
      .insert (.tableRef (.text "shop.items") "")
        (.mapping [("price", .literal "2"), ("name", .text "'tea'")])
        (some (.conflict (.text "(name)") [.assign (.unqualified "price") (.text "2")]))
    let written : Draft :=
      .insert (.tableRef (.unqualified "shop.items") "")
        (.pairs [("price", .literal "2"), ("name", .literal "'tea'")])
        (some (.conflict (.literal "(name)") [.assign (.unqualified "price") (.literal "2")]))
    let n : Node :=
      .statement (.insert ⟨.name "shop.items", ""⟩
        [("price", .literal "2"), ("name", .literal "'tea'")]
        (some ⟨.literal "(name)", [.assign (.name "price") (.literal "2")]⟩))
    draft.build = .ok n ∧ draft.writtenOut = written ∧ written.build = .ok n ∧
      n.toDraft.build = .ok n ∧ other.writtenOut = written ∧ other.build = .ok n := by
  intro draft other written n
  have hdraft : draft.build = .ok n := rfl
  have hwritten : draft.writtenOut = written := rfl
  have hother : other.writtenOut = written := rfl
  have honce : other.FieldsOnce := by
    simp [other, Draft.FieldsOnce, Draft.RowFieldsOnce, Draft.ValuesFieldsOnce,
      Draft.OptionFieldsOnce, Draft.AllFieldsOnce]
  obtain ⟨⟨hagain, _⟩, hform⟩ := Draft.build_regardless_of_form draft n
  obtain ⟨⟨hbuild, _⟩, hothers⟩ := hform hdraft
  exact ⟨hdraft, hwritten, hwritten ▸ hbuild, hagain, hother, (hothers other hother).1 honce⟩

end SchemaMigration
