import SchemaMigration.Proofs.Display
import SchemaMigration.Proofs.Spelling

/-!
# Qualified names in what is read from documents

A qualified name has a container, and the container may be any text. What is read from a document is
narrower: an empty container there stands for no container at all, and the name is read as a plain
one. So every qualified name in a tree that was read has a container that is not empty
(`Statement.contained_of_ofValue`).

A tree is contained when all its identifiers are. The lists of identifiers below visit each tree in
full, and the induction for expressions runs over the size of the document: the keys of a mapping
hold smaller values, so one step may assume the result for all of them
(`ExprKind.Spells.contained`).
-/

namespace SchemaMigration

open Document

/-! ## The identifiers of a tree -/

mutual

/-- The identifiers of an expression, from left to right. -/
def Expr.identifiers : Expr → List Identifier
  | .literal _ => []
  | .ident name => [name]
  | .binary left _ right => left.identifiers ++ right.identifiers
  | .assign field value => field :: value.identifiers
  | .references table _ _ _ => [table]
  | .column definition => definition.identifiers
  | .tableBody columns => Column.identifiersOfList columns
  | .addColumn definition _ => definition.identifiers
  | .dropColumn name => [name]
  | .addConstraint name body => name :: body.identifiers
  | .renameTo newName => [newName]

/-- The identifiers of a column definition: its name, its type and those of its constraints. -/
def Column.identifiers : Column → List Identifier
  | .define name dataType constraints => name :: dataType :: Expr.identifiersOfList constraints

/-- The identifiers of several expressions, in order. -/
def Expr.identifiersOfList : List Expr → List Identifier
  | [] => []
  | first :: rest => first.identifiers ++ Expr.identifiersOfList rest

/-- The identifiers of several column definitions, in order. -/
def Column.identifiersOfList : List Column → List Identifier
  | [] => []
  | first :: rest => first.identifiers ++ Column.identifiersOfList rest

end

/-- The identifiers of an expression that may be absent. -/
def Expr.identifiersOfOption : Option Expr → List Identifier
  | none => []
  | some e => e.identifiers

/-- The identifiers of a select. -/
def Select.identifiers (query : Select) : List Identifier :=
  Expr.identifiersOfList query.columns ++
    query.source.table :: Expr.identifiersOfOption query.condition

/-- The identifiers of a conflict clause that may be absent. -/
def ConflictClause.identifiersOfOption : Option ConflictClause → List Identifier
  | none => []
  | some clause => clause.cause.identifiers ++ Expr.identifiersOfList clause.assignments

/-- The identifiers of a statement, from left to right. -/
def Statement.identifiers : Statement → List Identifier
  | .alter _ name action => name :: action.identifiers
  | .create _ name body _ => name :: Expr.identifiersOfOption body
  | .drop _ name => [name]
  | .insert table values onConflict =>
    table.table :: Expr.identifiersOfList (values.map Prod.snd) ++
      ConflictClause.identifiersOfOption onConflict
  | .update table assignments condition =>
    table.table :: Expr.identifiersOfList assignments ++ Expr.identifiersOfOption condition
  | .select query => query.identifiers
  | .withSelect _ inner outer => inner.identifiers ++ outer.identifiers

/-! ## Containers -/

/-- A plain name, or a name whose container is not empty. -/
def Identifier.Contained : Identifier → Prop
  | .name _ => True
  | .qualified container _ => container ≠ ""

instance : DecidablePred Identifier.Contained
  | .name _ => inferInstanceAs (Decidable True)
  | .qualified container _ => inferInstanceAs (Decidable (container ≠ ""))

/-- All qualified names among the identifiers have a container that is not empty. -/
def Identifier.AllContained (names : List Identifier) : Prop := ∀ name ∈ names, name.Contained

instance (names : List Identifier) : Decidable (Identifier.AllContained names) :=
  inferInstanceAs (Decidable (∀ name ∈ names, name.Contained))

namespace Identifier.AllContained

@[simp] theorem nil : AllContained [] := fun _ hname => absurd hname List.not_mem_nil

@[simp] theorem cons_iff {name : Identifier} {names : List Identifier} :
    AllContained (name :: names) ↔ name.Contained ∧ AllContained names :=
  List.forall_mem_cons

theorem singleton_iff {name : Identifier} : AllContained [name] ↔ name.Contained := by
  rw [cons_iff, and_iff_left nil]

@[simp] theorem append_iff {before after : List Identifier} :
    AllContained (before ++ after) ↔ AllContained before ∧ AllContained after :=
  List.forall_mem_append

end Identifier.AllContained

/-- Every qualified name in the expression has a container that is not empty. -/
abbrev Expr.Contained (e : Expr) : Prop := Identifier.AllContained e.identifiers

/-- Every qualified name in the column definition has a container that is not empty. -/
abbrev Column.Contained (c : Column) : Prop := Identifier.AllContained c.identifiers

/-- Every qualified name in the statement has a container that is not empty. -/
abbrev Statement.Contained (s : Statement) : Prop := Identifier.AllContained s.identifiers

/-- Several expressions are contained when each of them is. -/
theorem Identifier.allContained_exprs_iff {es : List Expr} :
    AllContained (Expr.identifiersOfList es) ↔ ∀ e ∈ es, e.Contained := by
  induction es with
  | nil => simp [Expr.identifiersOfList]
  | cons first rest ih => simp [Expr.identifiersOfList, ih]

/-- Several column definitions are contained when each of them is. -/
theorem Identifier.allContained_columns_iff {cs : List Column} :
    AllContained (Column.identifiersOfList cs) ↔ ∀ c ∈ cs, c.Contained := by
  induction cs with
  | nil => simp [Column.identifiersOfList]
  | cons first rest ih => simp [Column.identifiersOfList, ih]

/-! ## Identifiers that are read -/

/-- An identifier that is read as a qualified name has a container that counts as present, and so
its text is not empty. -/
theorem Identifier.contained_of_ofValue {value : Value} {name : Identifier}
    (h : Identifier.ofValue value = .ok name) : name.Contained := by
  -- A name is a text, a text with half of a pair in it, or a record; nothing else is read.
  unfold Identifier.ofValue at h
  split at h
  · cases h
    exact trivial
  · cases h
    exact trivial
  · obtain ⟨_, _, h⟩ := Loading.bind_eq_ok_iff.mp h
    obtain ⟨base, _, h⟩ := Loading.bind_eq_ok_iff.mp h
    -- Without a container the name is plain.
    split at h
    · cases h
      exact trivial
    · next container _ =>
      split at h
      · -- Only here is the name qualified, by the text of a container that counts as present.
        next htruthy =>
        obtain ⟨text, htext, h⟩ := Loading.bind_eq_ok_iff.mp h
        cases h
        rw [eq_display_of_shown htext]
        exact Value.display_ne_empty htruthy
      · cases h
        exact trivial
  · cases h

theorem TableRef.contained_of_ofValue {value : Value} {table : TableRef}
    (h : TableRef.ofValue value = .ok table) : table.table.Contained := by
  unfold TableRef.ofValue at h
  split at h
  · split at h
    · obtain ⟨name, hname, h⟩ := Loading.bind_eq_ok_iff.mp h
      obtain ⟨shortName, _, h⟩ := Loading.bind_eq_ok_iff.mp h
      cases h
      exact Identifier.contained_of_ofValue (Loading.under_eq_ok_iff.mp hname)
    · obtain ⟨name, hname, h⟩ := Loading.bind_eq_ok_iff.mp h
      cases h
      exact Identifier.contained_of_ofValue hname
  · obtain ⟨name, hname, h⟩ := Loading.bind_eq_ok_iff.mp h
    cases h
    exact Identifier.contained_of_ofValue hname

/-! ## Parts of a mapping

A property of everything that is read from the values of a mapping holds of the results under each
of its keys. The values are smaller than the mapping, which is what an induction over the size of a
document needs. -/

namespace Document

variable {α : Type} {entries : Entries} {key : String} {read : Value → Loading α} {P : α → Prop}

theorem Reads.of_forall {result : α} (h : Reads entries key read result)
    (hread : ∀ value a, sizeOf value < sizeOf entries → read value = .ok a → P a) : P result := by
  obtain ⟨value, hget, _, hresult⟩ := h
  exact hread value result (Entries.sizeOf_get?_lt hget) hresult

theorem ReadsItems.of_forall {items : List Value} {results : List α}
    (h : ReadsItems read items results)
    (hread : ∀ value ∈ items, ∀ a, read value = .ok a → P a) : ∀ result ∈ results, P result := by
  induction h with
  | nil => exact fun _ hresult => absurd hresult List.not_mem_nil
  | @cons item first rest others hfirst _ ih =>
    intro result hresult
    rcases List.mem_cons.mp hresult with rfl | hothers
    · exact hread item List.mem_cons_self _ hfirst
    · exact ih (fun value hvalue => hread value (List.mem_cons_of_mem _ hvalue)) result hothers

theorem ReadsList.of_forall {results : List α} (h : ReadsList entries key read results)
    (hread : ∀ value a, sizeOf value < sizeOf entries → read value = .ok a → P a) :
    ∀ result ∈ results, P result := by
  cases h with
  | absent _ => exact fun _ hresult => absurd hresult List.not_mem_nil
  | present hget hcontent hitems =>
    -- A value in the list is smaller than the list, and the list than the entries.
    refine hitems.of_forall fun value hvalue a ha => hread value a ?_ ha
    have hitem := List.sizeOf_lt_of_mem hvalue
    have hlist := Value.sizeOf_lt_of_content_eq_list hcontent
    have hentry := Entries.sizeOf_get?_lt hget
    omega

end Document

/-! ## Expressions -/

/-- Values below a size are read as contained expressions. -/
def ContainedBelow (size : Nat) : Prop :=
  ∀ value e, sizeOf value < size → Expr.ofValue value = .ok e → e.Contained

theorem ContainedBelow.mono {size smaller : Nat} (h : ContainedBelow size) (hle : smaller ≤ size) :
    ContainedBelow smaller :=
  fun value e hvalue => h value e (Nat.lt_of_lt_of_le hvalue hle)

theorem Column.Spelled.contained {entries : Entries} {c : Column} (h : c.Spelled entries)
    (ih : ContainedBelow (sizeOf entries)) : c.Contained := by
  cases c with
  | define name dataType constraints =>
    obtain ⟨hname, htype, hconstraints⟩ := h
    rw [Column.Contained, Column.identifiers, Identifier.AllContained.cons_iff,
      Identifier.AllContained.cons_iff, Identifier.allContained_exprs_iff]
    exact ⟨hname.of_forall fun _ _ _ => Identifier.contained_of_ofValue,
      htype.of_forall fun _ _ _ => Identifier.contained_of_ofValue, hconstraints.of_forall ih⟩

theorem Column.contained_of_ofValue {value : Value} {c : Column}
    (h : Column.ofValue value = .ok c) (ih : ContainedBelow (sizeOf value)) : c.Contained := by
  obtain ⟨entries, hcontent, hspelled⟩ := Column.ofValue_eq_ok_iff.mp h
  have hentries := Value.sizeOf_lt_of_content_eq_mapping hcontent
  exact hspelled.contained (ih.mono (Nat.le_of_lt hentries))

/-- **One step.** When the values under the keys of a mapping are read as contained expressions, so
is the mapping. -/
theorem ExprKind.Spells.contained {entries : Entries} {kind : ExprKind} {e : Expr}
    (h : kind.Spells entries e) (ih : ContainedBelow (sizeOf entries)) : e.Contained := by
  have hnames : ∀ value name, sizeOf value < sizeOf entries →
      Identifier.ofValue value = .ok name → name.Contained :=
    fun _ _ _ => Identifier.contained_of_ofValue
  have hcolumns : ∀ value c, sizeOf value < sizeOf entries →
      Column.ofValue value = .ok c → c.Contained :=
    fun _ _ hvalue hc => Column.contained_of_ofValue hc (ih.mono (Nat.le_of_lt hvalue))
  -- One case for each kind of expression; all its identifiers are read from smaller values.
  unfold Expr.Contained
  cases h with
  | literal _ =>
    rw [Expr.identifiers]
    exact .nil
  | ident hname =>
    rw [Expr.identifiers, Identifier.AllContained.singleton_iff]
    exact hname.of_forall hnames
  | binary hleft _ hright =>
    rw [Expr.identifiers, Identifier.AllContained.append_iff]
    exact ⟨hleft.of_forall ih, hright.of_forall ih⟩
  | assign hfield hvalue =>
    rw [Expr.identifiers, Identifier.AllContained.cons_iff]
    exact ⟨hfield.of_forall hnames, hvalue.of_forall ih⟩
  | references htable _ _ _ =>
    rw [Expr.identifiers, Identifier.AllContained.singleton_iff]
    exact htable.of_forall hnames
  | column hdefinition =>
    rw [Expr.identifiers]
    exact hdefinition.contained ih
  | tableBody hfields =>
    rw [Expr.identifiers, Identifier.allContained_columns_iff]
    exact hfields.of_forall hcolumns
  | addColumn hfield _ =>
    rw [Expr.identifiers]
    exact hfield.of_forall hcolumns
  | dropColumn hname =>
    rw [Expr.identifiers, Identifier.AllContained.singleton_iff]
    exact hname.of_forall hnames
  | addConstraint hname hbody =>
    rw [Expr.identifiers, Identifier.AllContained.cons_iff]
    exact ⟨hname.of_forall hnames, hbody.of_forall ih⟩
  | renameTo hname =>
    rw [Expr.identifiers, Identifier.AllContained.singleton_iff]
    exact hname.of_forall hnames

/-- Everything that is read as an expression is contained, by induction over its size. -/
theorem Expr.contained_of_ofValue {value : Value} {e : Expr} (h : Expr.ofValue value = .ok e) :
    e.Contained := by
  rcases Expr.eq_literal_of_ofValue h with ⟨text, rfl⟩ | ⟨entries, hcontent⟩
  · rw [Expr.Contained, Expr.identifiers]
    exact .nil
  · obtain ⟨kind, _, hspells⟩ := (Expr.ofValue_mapping_eq_ok_iff hcontent).mp h
    -- The values under the keys are smaller than the entries, and those than the value itself.
    have hentries := Value.sizeOf_lt_of_content_eq_mapping hcontent
    apply hspells.contained
    intro smaller e' hsmaller h'
    exact Expr.contained_of_ofValue h'
termination_by sizeOf value

/-! ## Statements -/

theorem Expr.contained_of_listOfValue {value : Value} {es : List Expr}
    (h : Expr.listOfValue value = .ok es) :
    Identifier.AllContained (Expr.identifiersOfList es) := by
  obtain ⟨items, _, hitems⟩ := Expr.listOfValue_eq_ok_iff.mp h
  rw [Identifier.allContained_exprs_iff]
  exact hitems.of_forall fun _ _ _ => Expr.contained_of_ofValue

theorem Expr.contained_of_readsOptional {entries : Entries} {key : String} {found : Option Expr}
    (h : ReadsOptional entries key Expr.ofValue found) :
    Identifier.AllContained (Expr.identifiersOfOption found) := by
  cases h with
  | absent _ =>
    rw [Expr.identifiersOfOption]
    exact .nil
  | present h => exact h.of_forall fun _ _ _ => Expr.contained_of_ofValue

theorem ConflictClause.contained_of_readsOptional {entries : Entries} {key : String}
    {found : Option ConflictClause} (h : ReadsOptional entries key conflictOfValue found) :
    Identifier.AllContained (ConflictClause.identifiersOfOption found) := by
  cases h with
  | absent _ =>
    rw [ConflictClause.identifiersOfOption]
    exact .nil
  | present h =>
    obtain ⟨value, _, _, hclause⟩ := h
    obtain ⟨inner, _, hcause, hassignments⟩ := conflictOfValue_eq_ok_iff.mp hclause
    rw [ConflictClause.identifiersOfOption, Identifier.AllContained.append_iff,
      Identifier.allContained_exprs_iff]
    exact ⟨hcause.of_forall fun _ _ _ => Expr.contained_of_ofValue,
      hassignments.of_forall fun _ _ _ => Expr.contained_of_ofValue⟩

theorem Select.Spelled.contained {entries : Entries} {query : Select}
    (h : query.Spelled entries) : Identifier.AllContained query.identifiers := by
  rw [Select.identifiers, Identifier.AllContained.append_iff, Identifier.AllContained.cons_iff]
  exact ⟨h.columns.of_forall fun _ _ _ => Expr.contained_of_listOfValue,
    h.source.of_forall fun _ _ _ => TableRef.contained_of_ofValue,
    Expr.contained_of_readsOptional h.condition⟩

theorem Select.contained_of_ofValue {value : Value} {query : Select}
    (h : Select.ofValue value = .ok query) : Identifier.AllContained query.identifiers := by
  obtain ⟨entries, _, hspelled⟩ := Select.ofValue_eq_ok_iff.mp h
  exact hspelled.contained

theorem Document.contained_of_spellsCells {pairs : Entries} {row : List (String × Expr)}
    (h : List.Forall₂ SpellsCell pairs row) :
    Identifier.AllContained (Expr.identifiersOfList (row.map Prod.snd)) := by
  induction h with
  | nil => exact .nil
  | cons hcell _ ih =>
    rw [List.map_cons, Expr.identifiersOfList, Identifier.AllContained.append_iff]
    exact ⟨Expr.contained_of_ofValue hcell.2, ih⟩

/-- Whatever is read as a statement has no qualified name with an empty container. -/
theorem Statement.contained_of_ofValue {value : Value} {s : Statement}
    (h : Statement.ofValue value = .ok s) : s.Contained := by
  obtain ⟨entries, kind, _, _, hspells⟩ := Statement.ofValue_eq_ok_iff.mp h
  have hnames : ∀ value name, sizeOf value < sizeOf entries →
      Identifier.ofValue value = .ok name → name.Contained :=
    fun _ _ _ => Identifier.contained_of_ofValue
  have htables : ∀ value (table : TableRef), sizeOf value < sizeOf entries →
      TableRef.ofValue value = .ok table → table.table.Contained :=
    fun _ _ _ => TableRef.contained_of_ofValue
  unfold Statement.Contained
  -- The names and tables of a statement are read from its entries, like its expressions.
  cases hspells with
  | alter _ hname haction =>
    rw [Statement.identifiers, Identifier.AllContained.cons_iff]
    exact ⟨hname.of_forall hnames, haction.of_forall fun _ _ _ => Expr.contained_of_ofValue⟩
  | create _ hname hbody _ =>
    rw [Statement.identifiers, Identifier.AllContained.cons_iff]
    exact ⟨hname.of_forall hnames, Expr.contained_of_readsOptional hbody⟩
  | drop _ hname =>
    rw [Statement.identifiers, Identifier.AllContained.singleton_iff]
    exact hname.of_forall hnames
  | insert _ hrow hconflict htable =>
    rw [Statement.identifiers, Identifier.AllContained.append_iff,
      Identifier.AllContained.cons_iff]
    exact ⟨⟨htable.of_forall htables, contained_of_spellsCells hrow⟩,
      ConflictClause.contained_of_readsOptional hconflict⟩
  | update htable hassignments hcondition =>
    rw [Statement.identifiers, Identifier.AllContained.append_iff,
      Identifier.AllContained.cons_iff]
    exact ⟨⟨htable.of_forall htables,
        hassignments.of_forall fun _ _ _ => Expr.contained_of_listOfValue⟩,
      Expr.contained_of_readsOptional hcondition⟩
  | select hquery => exact hquery.contained
  | withSelect _ hinner houter =>
    rw [Statement.identifiers, Identifier.AllContained.append_iff]
    exact ⟨hinner.of_forall fun _ _ _ => Select.contained_of_ofValue,
      houter.of_forall fun _ _ _ => Select.contained_of_ofValue⟩

/-- The same for every statement of a batch. -/
theorem Batch.contained_of_ofValue {value : Value} {batch : Batch}
    (h : Batch.ofValue value = .ok batch) : ∀ s ∈ batch, s.Contained := by
  obtain ⟨items, _, hitems⟩ := Batch.ofValue_eq_ok_iff.mp h
  exact hitems.of_forall fun _ _ _ => Statement.contained_of_ofValue

end SchemaMigration
