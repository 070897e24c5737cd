import SchemaMigration.Proofs.Spacing

/-!
# What holds of the texts that a tree is built from holds of its text

Rendering does few things to texts: it puts them one behind the other, with words and marks of its
own in between, and it puts some in parentheses. It may leave a text out. A property that survives
all of this (`Text.Kept`) passes from the leaves of a tree to its rendered text, and that is shown
here once for all such properties: for expressions by induction over the tree
(`Expr.kept_render`), then for statements (`Statement.kept_render`).
-/

namespace SchemaMigration

namespace Text

/-- Small letters, blanks and the few marks that stand between rendered parts. Neither parentheses
nor line ends are among them. -/
def isPlainChar (c : Char) : Bool := c.isLower || c ∈ [' ', ',', '.', '=', '1']

/-- A property of texts that rendering keeps. -/
structure Kept (P : String → Prop) : Prop where
  append : ∀ {first second : String}, P first → P second → P (first ++ second)
  parenthesized : ∀ {text : String}, P text → P ("(" ++ text ++ ")")
  plain : ∀ {text : String}, text.toList.all isPlainChar = true → P text

namespace Kept

variable {P : String → Prop}

theorem empty (hP : Kept P) : P "" := hP.plain (by decide)

theorem intercalate (hP : Kept P) {separator : String} (hseparator : P separator)
    {parts : List String} (h : ∀ part ∈ parts, P part) : P (separator.intercalate parts) := by
  induction parts with
  | nil =>
    rw [String.intercalate_nil]
    exact hP.empty
  | cons first rest ih =>
    obtain ⟨hfirst, hrest⟩ := List.forall_mem_cons.mp h
    cases rest with
    | nil =>
      rw [String.intercalate_singleton]
      exact hfirst
    -- Every further text brings one separator with it.
    | cons second rest =>
      rw [String.intercalate_cons_cons]
      exact hP.append (hP.append hfirst hseparator) (ih hrest)

theorem words (hP : Kept P) {parts : List String} (h : ∀ part ∈ parts, P part) :
    P (words parts) := by
  refine hP.intercalate (hP.plain (by decide)) ?_
  intro part hpart
  have hmem : part ∈ parts ∧ part ≠ "" := by simpa [List.filterMap_map] using hpart
  exact h part hmem.1

theorem commaList (hP : Kept P) {members : List String} (h : ∀ member ∈ members, P member) :
    P (commaList members) :=
  hP.intercalate (hP.plain (by decide)) h

/-- What is enclosed may go away with its enclosure. -/
theorem enclosedUnlessEmpty (hP : Kept P) {opening text closing : String}
    (h : P (opening ++ text ++ closing)) : P (enclosedUnlessEmpty opening text closing) := by
  unfold SchemaMigration.enclosedUnlessEmpty
  split
  · exact hP.empty
  · exact h

/-- An option of a keyword stands there with its keyword or not at all. -/
theorem option (hP : Kept P) {keyword text : String} (hkeyword : P keyword) (htext : P text) :
    P (SchemaMigration.enclosedUnlessEmpty keyword text "") :=
  hP.enclosedUnlessEmpty (hP.append (hP.append hkeyword htext) hP.empty)

theorem ifNotExists (hP : Kept P) (flag : Bool) : P (if flag then "if not exists" else "") := by
  cases flag with
  | false => exact hP.empty
  | true => exact hP.plain (by decide)

end Kept

end Text

open Text

variable {P : String → Prop}

/-! ## Expressions -/

theorem Identifier.kept_render (hP : Kept P) {i : Identifier} (h : ∀ leaf ∈ i.leaves, P leaf) :
    P i.render := by
  cases i with
  | name text => exact h text List.mem_cons_self
  -- The dot in the middle is the only mark that is written here.
  | qualified container base =>
    simp only [Identifier.leaves, List.forall_mem_cons] at h
    have hdot : P "." := hP.plain (by decide)
    have hcontainer := hP.append h.1 hdot
    exact hP.append hcontainer h.2.1

mutual

/-- An expression that is built from texts with the property has a text with it. Induction over the
tree: a part is built from some of the leaves of the whole. -/
theorem Expr.kept_render (hP : Kept P) :
    ∀ e : Expr, (∀ leaf ∈ e.leaves, P leaf) → P e.render
  | .literal text, h => by
    rw [Expr.render]
    exact h text (by simp [Expr.leaves])
  | .ident identifier, h => by
    rw [Expr.leaves] at h
    rw [Expr.render]
    exact identifier.kept_render hP h
  | .binary left operator right, h => by
    simp only [Expr.leaves, List.forall_mem_append, List.forall_mem_cons] at h
    obtain ⟨hleft, hoperator, hright⟩ := h
    have hleft := left.kept_render hP hleft
    have hright := right.kept_render hP hright
    rw [Expr.render]
    exact hP.words (by simp [hleft, hoperator, hright])
  | .assign field value, h => by
    -- The mark between the two sides is a text without anything that could spoil the property.
    simp only [Expr.leaves, List.forall_mem_append] at h
    have hfield := field.kept_render hP h.1
    have hvalue := value.kept_render hP h.2
    rw [Expr.render]
    exact hP.append (hP.append hfield (hP.plain (by decide))) hvalue
  | .references table column onDelete onUpdate, h => by
    simp only [Expr.leaves, List.forall_mem_append, List.forall_mem_cons] at h
    obtain ⟨htable, hcolumn, honDelete, honUpdate, -⟩ := h
    have htable := table.kept_render hP htable
    have hkeyword : P "references" := hP.plain (by decide)
    -- The column has parentheses around it, the two actions have words in front of them.
    have hcolumn := hP.enclosedUnlessEmpty (hP.parenthesized hcolumn)
    have hdelete : P "on delete " := hP.plain (by decide)
    have hupdate : P "on update " := hP.plain (by decide)
    have honDelete := hP.option hdelete honDelete
    have honUpdate := hP.option hupdate honUpdate
    rw [Expr.render]
    exact hP.words (by simp [hkeyword, htable, hcolumn, honDelete, honUpdate])
  | .column definition, h => by
    rw [Expr.leaves] at h
    rw [Expr.render]
    exact definition.kept_render hP h
  | .tableBody columns, h => by
    rw [Expr.leaves] at h
    have hcolumns := Column.kept_renderList hP columns h
    rw [Expr.render]
    exact hP.parenthesized (hP.commaList hcolumns)
  | .addColumn definition ifNotExists, h => by
    rw [Expr.leaves] at h
    have hdefinition := definition.kept_render hP h
    -- The flag is written as words of its own or not at all.
    have hkeyword : P "add column" := hP.plain (by decide)
    have hflag := hP.ifNotExists ifNotExists
    rw [Expr.render]
    exact hP.words (by simp [hkeyword, hflag, hdefinition])
  | .dropColumn name, h => by
    rw [Expr.leaves] at h
    rw [Expr.render]
    exact hP.append (hP.plain (by decide)) (name.kept_render hP h)
  | .addConstraint name body, h => by
    simp only [Expr.leaves, List.forall_mem_append] at h
    have hname := name.kept_render hP h.1
    have hbody := body.kept_render hP h.2
    have hkeyword : P "add constraint" := hP.plain (by decide)
    rw [Expr.render]
    exact hP.words (by simp [hkeyword, hname, hbody])
  | .renameTo newName, h => by
    rw [Expr.leaves] at h
    rw [Expr.render]
    exact hP.append (hP.plain (by decide)) (newName.kept_render hP h)

theorem Column.kept_render (hP : Kept P) :
    ∀ c : Column, (∀ leaf ∈ c.leaves, P leaf) → P c.render
  | .define name dataType constraints, h => by
    -- However many constraints there are, each is a word like the name and the type.
    simp only [Column.leaves, List.forall_mem_append] at h
    obtain ⟨⟨hname, hdataType⟩, hconstraints⟩ := h
    have hname := name.kept_render hP hname
    have hdataType := dataType.kept_render hP hdataType
    have hconstraints := Expr.kept_renderList hP constraints hconstraints
    rw [Column.render]
    refine hP.words ?_
    rw [List.forall_mem_cons, List.forall_mem_cons]
    exact ⟨hname, hdataType, hconstraints⟩

theorem Expr.kept_renderList (hP : Kept P) :
    ∀ es : List Expr, (∀ leaf ∈ Expr.leavesOfList es, P leaf) →
      ∀ text ∈ Expr.renderList es, P text
  | [], _ => by simp
  | first :: rest, h => by
    rw [Expr.leavesOfList, List.forall_mem_append] at h
    rw [Expr.renderList, List.forall_mem_cons]
    exact ⟨first.kept_render hP h.1, Expr.kept_renderList hP rest h.2⟩

theorem Column.kept_renderList (hP : Kept P) :
    ∀ cs : List Column, (∀ leaf ∈ Column.leavesOfList cs, P leaf) →
      ∀ text ∈ Column.renderList cs, P text
  | [], _ => by simp
  | first :: rest, h => by
    rw [Column.leavesOfList, List.forall_mem_append] at h
    rw [Column.renderList, List.forall_mem_cons]
    exact ⟨first.kept_render hP h.1, Column.kept_renderList hP rest h.2⟩

end

/-! ## Statements -/

theorem Target.kept_noun (hP : Kept P) (target : Target) : P target.noun :=
  hP.plain (by cases target <;> decide)

theorem Expr.kept_commaList (hP : Kept P) {es : List Expr}
    (h : ∀ leaf ∈ Expr.leavesOfList es, P leaf) : P (commaList (Expr.renderList es)) :=
  hP.commaList (Expr.kept_renderList hP es h)

/-- An optional expression, with a text in its place that has the property as well. -/
theorem Expr.kept_option (hP : Kept P) {e : Option Expr} {otherwise : String}
    (h : ∀ leaf ∈ Expr.leavesOfOption e, P leaf) (hotherwise : P otherwise) :
    P ((e.map Expr.render).getD otherwise) := by
  cases e with
  | none => exact hotherwise
  | some e => exact e.kept_render hP h

theorem kept_renderCondition (hP : Kept P) {condition : Option Expr}
    (h : ∀ leaf ∈ Expr.leavesOfOption condition, P leaf) : P (renderCondition condition) :=
  Expr.kept_option hP h (hP.plain (by decide))

theorem TableRef.kept_render (hP : Kept P) {ref : TableRef} (h : ∀ leaf ∈ ref.leaves, P leaf) :
    P ref.render := by
  simp only [TableRef.leaves, List.forall_mem_append, List.forall_mem_cons] at h
  have htable := ref.table.kept_render hP h.1
  exact hP.words (by simp [htable, h.2.1])

theorem ConflictClause.kept_render (hP : Kept P) {clause : ConflictClause}
    (h : ∀ leaf ∈ clause.leaves, P leaf) : P clause.render := by
  simp only [ConflictClause.leaves, List.forall_mem_append] at h
  have hcause := clause.cause.kept_render hP h.1
  have hassignments := Expr.kept_commaList hP h.2
  have hopening : P "on conflict" := hP.plain (by decide)
  have hmiddle : P "do update set" := hP.plain (by decide)
  refine hP.words ?_
  simp only [List.forall_mem_cons]
  exact ⟨hopening, hcause, hmiddle, hassignments, List.forall_mem_nil _⟩

theorem Select.kept_render (hP : Kept P) {query : Select} (h : ∀ leaf ∈ query.leaves, P leaf) :
    P query.render := by
  simp only [Select.leaves, List.forall_mem_append] at h
  obtain ⟨⟨hcolumns, hsource⟩, hcondition⟩ := h
  have hcolumns := Expr.kept_commaList hP hcolumns
  have hsource := query.source.kept_render hP hsource
  have hcondition := kept_renderCondition hP hcondition
  have hselect : P "select" := hP.plain (by decide)
  have hfrom : P "from" := hP.plain (by decide)
  have hwhere : P "where" := hP.plain (by decide)
  refine hP.words ?_
  simp only [List.forall_mem_cons]
  exact ⟨hselect, hcolumns, hfrom, hsource, hwhere, hcondition, List.forall_mem_nil _⟩

/-- **From leaves to the rendered text.** A property that rendering keeps holds of the text of a
statement when it holds of all texts that the statement was built from. -/
theorem Statement.kept_render (hP : Kept P) (s : Statement) (h : ∀ leaf ∈ s.leaves, P leaf) :
    P s.render := by
  cases s with
  | alter target name action =>
    simp only [Statement.leaves, List.forall_mem_append] at h
    have hkeyword : P "alter" := hP.plain (by decide)
    have hname := name.kept_render hP h.1
    have haction := action.kept_render hP h.2
    exact hP.words (by simp [hkeyword, target.kept_noun hP, hname, haction])
  | create target name body ifNotExists =>
    simp only [Statement.leaves, List.forall_mem_append] at h
    have hkeyword : P "create" := hP.plain (by decide)
    have hflag := hP.ifNotExists ifNotExists
    have hname := name.kept_render hP h.1
    have hbody := Expr.kept_option hP h.2 hP.empty
    rw [Statement.render]
    -- A constraint is written as its body alone.
    split
    · exact hP.words (by simp [hkeyword, hbody])
    · exact hP.words (by simp [hkeyword, target.kept_noun hP, hflag, hname, hbody])
  | drop target name =>
    have hkeyword : P "drop" := hP.plain (by decide)
    have hname := name.kept_render hP h
    exact hP.words (by simp [hkeyword, target.kept_noun hP, hname])
  | insert table values onConflict =>
    simp only [Statement.leaves, List.forall_mem_append] at h
    obtain ⟨⟨⟨htable, hfields⟩, hvalues⟩, hconflict⟩ := h
    have hinto : P "insert into" := hP.plain (by decide)
    have hkeyword : P "values" := hP.plain (by decide)
    -- The short name of the table is not written here.
    rw [TableRef.leaves, List.forall_mem_append] at htable
    have hname := table.table.kept_render hP htable.1
    have hfields := hP.parenthesized (hP.commaList hfields)
    have htexts := Expr.kept_renderList hP _ hvalues
    rw [Expr.renderList_eq_map, List.map_map] at htexts
    have hrow := hP.parenthesized (hP.commaList htexts)
    -- The clause is left out when there is none.
    have hclause : P ((onConflict.map ConflictClause.render).getD "") := by
      cases onConflict with
      | none => exact hP.empty
      | some clause => exact clause.kept_render hP hconflict
    refine hP.words ?_
    simp only [List.forall_mem_cons]
    exact ⟨hinto, hname, hfields, hkeyword, hrow, hclause, List.forall_mem_nil _⟩
  | update table assignments condition =>
    simp only [Statement.leaves, List.forall_mem_append] at h
    obtain ⟨⟨htable, hassignments⟩, hcondition⟩ := h
    have hupdate : P "update" := hP.plain (by decide)
    have hset : P "set" := hP.plain (by decide)
    have hwhere : P "where" := hP.plain (by decide)
    have htable := table.kept_render hP htable
    have hassignments := Expr.kept_commaList hP hassignments
    have hcondition := kept_renderCondition hP hcondition
    refine hP.words ?_
    simp only [List.forall_mem_cons]
    exact ⟨hupdate, htable, hset, hassignments, hwhere, hcondition, List.forall_mem_nil _⟩
  | select query => exact query.kept_render hP h
  | withSelect name inner outer =>
    simp only [Statement.leaves, List.forall_mem_append, List.forall_mem_cons] at h
    obtain ⟨⟨hname, hinner⟩, houter⟩ := h
    have hwith : P "with" := hP.plain (by decide)
    have has : P "as" := hP.plain (by decide)
    -- Only the inner query has parentheses around it.
    have hinner := hP.parenthesized (inner.kept_render hP hinner)
    have houter := outer.kept_render hP houter
    refine hP.words ?_
    simp only [List.forall_mem_cons]
    exact ⟨hwith, hname, has, hinner, houter, List.forall_mem_nil _⟩

end SchemaMigration
