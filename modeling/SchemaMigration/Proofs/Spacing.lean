import Mathlib.Data.List.Chain
import SchemaMigration.Statement.Render

/-!
# The spacing of rendered text is tight

A text is clean when it has no space at either end and no two spaces side by side (`Text.Clean`).
The joins keep texts clean, each for a reason of its own: `words` drops what is empty, so every
space it writes has something on both sides; `commaList` keeps every member, so it needs members
that are not empty, and so do the few places where a fixed piece of text ends in a space.

A tree has two lists of texts to go with that: the texts that it was built from
(`Statement.leaves`), and the texts that are written even where they are empty (`Statement.slots`).
When the former are clean and the latter are not empty, the text of the tree is clean
(`Statement.render_stays_clean`). Everything else may be empty, and then it leaves no trace in the
spacing.
-/

namespace SchemaMigration

namespace Text

/-! ## Clean texts -/

/-- No two spaces stand side by side. -/
def Apart (text : String) : Prop := text.toList.IsChain fun a b => ¬(a = ' ' ∧ b = ' ')

/-- No space stands at the start, and no two stand side by side; one may stand at the end. -/
structure Opens (text : String) : Prop where
  start : text.toList.head? ≠ some ' '
  apart : Apart text

/-- No space stands at the start or at the end, and no two stand side by side. -/
structure Clean (text : String) : Prop extends Opens text where
  finish : text.toList.getLast? ≠ some ' '

instance (text : String) : Decidable (Apart text) :=
  inferInstanceAs (Decidable (List.IsChain _ _))

instance (text : String) : Decidable (Opens text) :=
  decidable_of_iff (text.toList.head? ≠ some ' ' ∧ Apart text)
    ⟨fun h => ⟨h.1, h.2⟩, fun h => ⟨h.start, h.apart⟩⟩

instance (text : String) : Decidable (Clean text) :=
  decidable_of_iff (Opens text ∧ text.toList.getLast? ≠ some ' ')
    ⟨fun h => ⟨h.1, h.2⟩, fun h => ⟨h.toOpens, h.finish⟩⟩

theorem clean_empty : Clean "" := by decide

theorem toList_ne_nil {text : String} (h : text ≠ "") : text.toList ≠ [] := by
  intro hnil
  exact h (String.toList_eq_nil_iff.mp hnil)

/-- Two texts stay apart when the first has no space at its end or the second none at its start. -/
theorem Apart.append {first second : String} (hfirst : Apart first) (hsecond : Apart second)
    (h : first.toList.getLast? ≠ some ' ' ∨ second.toList.head? ≠ some ' ') :
    Apart (first ++ second) := by
  unfold Apart
  rw [String.toList_append]
  refine List.IsChain.append hfirst hsecond ?_
  rintro a ha b hb ⟨rfl, rfl⟩
  -- Two spaces could only meet where the two texts do, and there one of them is missing.
  rcases h with hfinish | hstart
  · exact hfinish ha
  · exact hstart hb

/-- The start of a text that is not empty is the start of whatever it stands in front of. -/
theorem head?_append_ne_space {first : String} (hfirst : first.toList.head? ≠ some ' ')
    (hne : first ≠ "") (second : String) : (first ++ second).toList.head? ≠ some ' ' := by
  rw [String.toList_append, List.head?_append_of_ne_nil _ (toList_ne_nil hne)]
  exact hfirst

namespace Clean

variable {first second text : String}

/-- Clean texts may be put side by side, empty ones too. -/
theorem append (hfirst : Clean first) (hsecond : Clean second) : Clean (first ++ second) := by
  -- An empty text changes nothing, so both can be taken as not empty.
  by_cases hempty : first = ""
  · rw [hempty, String.empty_append]
    exact hsecond
  by_cases hempty' : second = ""
  · rw [hempty', String.append_empty]
    exact hfirst
  refine ⟨⟨head?_append_ne_space hfirst.start hempty second,
    hfirst.apart.append hsecond.apart (.inl hfirst.finish)⟩, ?_⟩
  rw [String.toList_append, List.getLast?_append_of_ne_nil _ (toList_ne_nil hempty')]
  exact hsecond.finish

/-- A clean text with a separator behind it opens what follows, unless there is no text. -/
theorem opens_append (htext : Clean text) (hne : text ≠ "") {separator : String}
    (hseparator : Apart separator) : Opens (text ++ separator) :=
  ⟨head?_append_ne_space htext.start hne separator,
    htext.apart.append hseparator (.inl htext.finish)⟩

end Clean

/-- A clean text that is not empty fills the place behind a text that may end in a space. -/
theorem Opens.clean_append {opening text : String} (hopening : Opens opening) (htext : Clean text)
    (hne : text ≠ "") : Clean (opening ++ text) := by
  by_cases hempty : opening = ""
  · rw [hempty, String.empty_append]
    exact htext
  refine ⟨⟨head?_append_ne_space hopening.start hempty text,
    hopening.apart.append htext.apart (.inr htext.start)⟩, ?_⟩
  rw [String.toList_append, List.getLast?_append_of_ne_nil _ (toList_ne_nil hne)]
  exact htext.finish

/-! ## Joins -/

theorem intercalate_ne_empty {separator : String} {first : String} {rest : List String}
    (h : first ≠ "") : separator.intercalate (first :: rest) ≠ "" := by
  intro hempty
  cases rest with
  | nil =>
    rw [String.intercalate_singleton] at hempty
    exact h hempty
  | cons second rest =>
    rw [String.intercalate_cons_cons, String.append_eq_empty_iff, String.append_eq_empty_iff]
      at hempty
    exact h hempty.1.1

/-- Clean parts that are not empty have a clean joined text. -/
theorem clean_intercalate {separator : String} (hseparator : Apart separator)
    {parts : List String} (h : ∀ part ∈ parts, Clean part ∧ part ≠ "") :
    Clean (separator.intercalate parts) := by
  induction parts with
  | nil =>
    rw [String.intercalate_nil]
    exact clean_empty
  | cons first rest ih =>
    obtain ⟨⟨hfirst, hne⟩, hrest⟩ := List.forall_mem_cons.mp h
    -- The separator stands between two parts that are not empty, so no space is at an end.
    cases rest with
    | nil =>
      rw [String.intercalate_singleton]
      exact hfirst
    | cons second rest =>
      rw [String.intercalate_cons_cons]
      have hsecond : second ≠ "" := (hrest second List.mem_cons_self).2
      exact (hfirst.opens_append hne hseparator).clean_append (ih hrest)
        (intercalate_ne_empty hsecond)

/-! ## Several texts -/

/-- Every one of several texts is clean. -/
def AllClean (texts : List String) : Prop := ∀ text ∈ texts, Clean text

namespace AllClean

theorem nil : AllClean [] := List.forall_mem_nil _

theorem cons_iff {first : String} {rest : List String} :
    AllClean (first :: rest) ↔ Clean first ∧ AllClean rest :=
  List.forall_mem_cons

theorem append_iff {before after : List String} :
    AllClean (before ++ after) ↔ AllClean before ∧ AllClean after :=
  List.forall_mem_append

theorem cons {first : String} {rest : List String} (hfirst : Clean first)
    (hrest : AllClean rest) : AllClean (first :: rest) :=
  cons_iff.mpr ⟨hfirst, hrest⟩

end AllClean

/-- None of several texts is empty. -/
def NoneEmpty (texts : List String) : Prop := ∀ text ∈ texts, text ≠ ""

namespace NoneEmpty

theorem cons_iff {first : String} {rest : List String} :
    NoneEmpty (first :: rest) ↔ first ≠ "" ∧ NoneEmpty rest :=
  List.forall_mem_cons

theorem append_iff {before after : List String} :
    NoneEmpty (before ++ after) ↔ NoneEmpty before ∧ NoneEmpty after :=
  List.forall_mem_append

end NoneEmpty

end Text

open Text

/-- Words that are empty leave no trace, so clean words have a clean text. -/
theorem clean_words {parts : List String} (h : AllClean parts) : Clean (words parts) := by
  refine clean_intercalate (by decide) ?_
  intro part hpart
  rw [List.filterMap_map] at hpart
  obtain ⟨hmem, hne⟩ : part ∈ parts ∧ part ≠ "" := by simpa using hpart
  exact ⟨h part hmem, hne⟩

/-- Every member keeps its place in a list, so none may be empty. -/
theorem clean_commaList {members : List String} (h : AllClean members)
    (hne : NoneEmpty members) : Clean (commaList members) := by
  refine clean_intercalate (by decide) ?_
  intro member hmember
  exact ⟨h member hmember, hne member hmember⟩

theorem clean_parenthesized {text : String} (h : Clean text) : Clean ("(" ++ text ++ ")") :=
  (Clean.append (by decide) h).append (by decide)

theorem clean_enclosedUnlessEmpty {opening text closing : String} (hopening : Opens opening)
    (htext : Clean text) (hclosing : Clean closing) :
    Clean (enclosedUnlessEmpty opening text closing) := by
  unfold enclosedUnlessEmpty
  split
  · exact clean_empty
  · next hne => exact (hopening.clean_append htext hne).append hclosing

/-! ## Leaves and slots

The leaves of a tree are the texts that it was built from. Its slots are the texts of those parts
that are written even where they are empty: the sides of an assignment, a name behind fixed words,
the members of a list. -/

/-- The parts of an identifier. -/
def Identifier.leaves : Identifier → List String
  | name text => [text]
  | qualified container base => [container, base]

mutual

/-- The texts that an expression was built from. -/
def Expr.leaves : Expr → List String
  | .literal text => [text]
  | .ident identifier => identifier.leaves
  | .binary left operator right => left.leaves ++ operator :: right.leaves
  | .assign field value => field.leaves ++ value.leaves
  | .references table column onDelete onUpdate => table.leaves ++ [column, onDelete, onUpdate]
  | .column definition => definition.leaves
  | .tableBody columns => Column.leavesOfList columns
  | .addColumn definition _ => definition.leaves
  | .dropColumn name => name.leaves
  | .addConstraint name body => name.leaves ++ body.leaves
  | .renameTo newName => newName.leaves

/-- The texts that a column definition was built from. -/
def Column.leaves : Column → List String
  | .define name dataType constraints =>
    name.leaves ++ dataType.leaves ++ Expr.leavesOfList constraints

/-- The texts that several expressions were built from. -/
def Expr.leavesOfList : List Expr → List String
  | [] => []
  | first :: rest => first.leaves ++ Expr.leavesOfList rest

/-- The texts that several column definitions were built from. -/
def Column.leavesOfList : List Column → List String
  | [] => []
  | first :: rest => first.leaves ++ Column.leavesOfList rest

end

mutual

/-- The texts of the parts of an expression that are written even where they are empty. -/
def Expr.slots : Expr → List String
  | .binary left _ right => left.slots ++ right.slots
  | .assign field value => field.render :: value.render :: value.slots
  | .column definition => definition.slots
  | .tableBody columns => Column.renderList columns ++ Column.slotsOfList columns
  | .addColumn definition _ => definition.slots
  | .dropColumn name => [name.render]
  | .addConstraint _ body => body.slots
  | .renameTo newName => [newName.render]
  | .literal _ => []
  | .ident _ => []
  | .references _ _ _ _ => []

/-- The texts of the parts of a column definition that are written even where they are empty. -/
def Column.slots : Column → List String
  | .define _ _ constraints => Expr.slotsOfList constraints

/-- The slots of several expressions, each by itself. -/
def Expr.slotsOfList : List Expr → List String
  | [] => []
  | first :: rest => first.slots ++ Expr.slotsOfList rest

/-- The slots of several column definitions, each by itself. -/
def Column.slotsOfList : List Column → List String
  | [] => []
  | first :: rest => first.slots ++ Column.slotsOfList rest

end

/-- The texts that an expression was built from, if there is one. -/
def Expr.leavesOfOption (e : Option Expr) : List String := (e.map Expr.leaves).getD []

/-- The slots of an expression, if there is one. -/
def Expr.slotsOfOption (e : Option Expr) : List String := (e.map Expr.slots).getD []

/-- The texts that a table reference was built from. -/
def TableRef.leaves (ref : TableRef) : List String := ref.table.leaves ++ [ref.shortName]

/-- The texts that a conflict clause was built from. -/
def ConflictClause.leaves (clause : ConflictClause) : List String :=
  clause.cause.leaves ++ Expr.leavesOfList clause.assignments

/-- The slots of a conflict clause. -/
def ConflictClause.slots (clause : ConflictClause) : List String :=
  clause.cause.slots ++ Expr.renderList clause.assignments ++ Expr.slotsOfList clause.assignments

/-- The texts that a select was built from. -/
def Select.leaves (query : Select) : List String :=
  Expr.leavesOfList query.columns ++ query.source.leaves ++ Expr.leavesOfOption query.condition

/-- The slots of a select. -/
def Select.slots (query : Select) : List String :=
  Expr.renderList query.columns ++ Expr.slotsOfList query.columns ++
    Expr.slotsOfOption query.condition

/-- The texts that a statement was built from. -/
def Statement.leaves : Statement → List String
  | .alter _ name action => name.leaves ++ action.leaves
  | .create _ name body _ => name.leaves ++ Expr.leavesOfOption body
  | .drop _ name => name.leaves
  | .insert table values onConflict =>
    table.leaves ++ values.map (·.1) ++ Expr.leavesOfList (values.map (·.2)) ++
      (onConflict.map ConflictClause.leaves).getD []
  | .update table assignments condition =>
    table.leaves ++ Expr.leavesOfList assignments ++ Expr.leavesOfOption condition
  | .select query => query.leaves
  | .withSelect name inner outer => name :: inner.leaves ++ outer.leaves

/-- The texts of the parts of a statement that are written even where they are empty. -/
def Statement.slots : Statement → List String
  | .alter _ _ action => action.slots
  | .create _ _ body _ => Expr.slotsOfOption body
  | .drop _ _ => []
  | .insert _ values onConflict =>
    values.map (·.1) ++ values.map (·.2.render) ++ Expr.slotsOfList (values.map (·.2)) ++
      (onConflict.map ConflictClause.slots).getD []
  | .update _ assignments condition =>
    Expr.renderList assignments ++ Expr.slotsOfList assignments ++ Expr.slotsOfOption condition
  | .select query => query.slots
  | .withSelect _ inner outer => inner.slots ++ outer.slots

/-! ## Expressions -/

theorem Identifier.clean_render {i : Identifier} (h : AllClean i.leaves) : Clean i.render := by
  cases i with
  | name text => exact h text List.mem_cons_self
  | qualified container base =>
    rw [leaves, AllClean.cons_iff, AllClean.cons_iff] at h
    exact (h.1.append (by decide)).append h.2.1

mutual

/-- An expression with clean leaves and without an empty slot has a clean text. -/
theorem Expr.clean_render : ∀ e : Expr, AllClean e.leaves → NoneEmpty e.slots → Clean e.render
  | .literal text, hleaves, _ => by
    rw [Expr.leaves, AllClean.cons_iff] at hleaves
    rw [Expr.render]
    exact hleaves.1
  | .ident identifier, hleaves, _ => by
    -- An identifier is written even where it is empty, and an empty text is clean.
    rw [Expr.leaves] at hleaves
    rw [Expr.render]
    exact identifier.clean_render hleaves
  | .binary left operator right, hleaves, hslots => by
    rw [Expr.leaves, AllClean.append_iff, AllClean.cons_iff] at hleaves
    rw [Expr.slots, NoneEmpty.append_iff] at hslots
    obtain ⟨hleft, hoperator, hright⟩ := hleaves
    rw [Expr.render]
    exact clean_words (.cons (left.clean_render hleft hslots.1)
      (.cons hoperator (.cons (right.clean_render hright hslots.2) .nil)))
  | .assign field value, hleaves, hslots => by
    rw [Expr.leaves, AllClean.append_iff] at hleaves
    rw [Expr.slots, NoneEmpty.cons_iff, NoneEmpty.cons_iff] at hslots
    obtain ⟨hfield, hvalue, hinner⟩ := hslots
    rw [Expr.render]
    -- The sign has a space on both sides, so it needs a field and a value.
    have hopens := (field.clean_render hleaves.1).opens_append hfield
      (show Apart " = " by decide)
    exact hopens.clean_append (value.clean_render hleaves.2 hinner) hvalue
  | .references table column onDelete onUpdate, hleaves, _ => by
    rw [Expr.leaves, AllClean.append_iff, AllClean.cons_iff, AllClean.cons_iff,
      AllClean.cons_iff] at hleaves
    obtain ⟨htable, hcolumn, honDelete, honUpdate, -⟩ := hleaves
    rw [Expr.render]
    -- What is enclosed goes away with its enclosure, so it may be empty.
    exact clean_words (.cons (by decide) (.cons (table.clean_render htable)
      (.cons (clean_enclosedUnlessEmpty (by decide) hcolumn (by decide))
        (.cons (clean_enclosedUnlessEmpty (by decide) honDelete clean_empty)
          (.cons (clean_enclosedUnlessEmpty (by decide) honUpdate clean_empty) .nil)))))
  | .column definition, hleaves, hslots => by
    rw [Expr.leaves] at hleaves
    rw [Expr.slots] at hslots
    rw [Expr.render]
    exact definition.clean_render hleaves hslots
  | .tableBody columns, hleaves, hslots => by
    rw [Expr.leaves] at hleaves
    rw [Expr.slots, NoneEmpty.append_iff] at hslots
    rw [Expr.render]
    have htexts := Column.clean_renderList columns hleaves hslots.2
    exact clean_parenthesized (clean_commaList htexts hslots.1)
  | .addColumn definition ifNotExists, hleaves, hslots => by
    rw [Expr.leaves] at hleaves
    rw [Expr.slots] at hslots
    rw [Expr.render]
    exact clean_words (.cons (by decide) (.cons (by cases ifNotExists <;> decide)
      (.cons (definition.clean_render hleaves hslots) .nil)))
  | .dropColumn name, hleaves, hslots => by
    rw [Expr.leaves] at hleaves
    rw [Expr.slots, NoneEmpty.cons_iff] at hslots
    rw [Expr.render]
    -- The words in front of the name end in a space, and nothing drops them.
    exact Opens.clean_append (by decide) (name.clean_render hleaves) hslots.1
  | .addConstraint name body, hleaves, hslots => by
    rw [Expr.leaves, AllClean.append_iff] at hleaves
    rw [Expr.slots] at hslots
    rw [Expr.render]
    exact clean_words (.cons (by decide) (.cons (name.clean_render hleaves.1)
      (.cons (body.clean_render hleaves.2 hslots) .nil)))
  | .renameTo newName, hleaves, hslots => by
    rw [Expr.leaves] at hleaves
    rw [Expr.slots, NoneEmpty.cons_iff] at hslots
    rw [Expr.render]
    exact Opens.clean_append (by decide) (newName.clean_render hleaves) hslots.1

/-- A column definition with clean leaves and without an empty slot has a clean text. -/
theorem Column.clean_render :
    ∀ c : Column, AllClean c.leaves → NoneEmpty c.slots → Clean c.render
  | .define name dataType constraints, hleaves, hslots => by
    rw [Column.leaves, AllClean.append_iff, AllClean.append_iff] at hleaves
    rw [Column.slots] at hslots
    obtain ⟨⟨hname, hdataType⟩, hconstraints⟩ := hleaves
    rw [Column.render]
    exact clean_words (.cons (name.clean_render hname) (.cons (dataType.clean_render hdataType)
      (Expr.clean_renderList constraints hconstraints hslots)))

/-- Expressions with clean leaves and without an empty slot have clean texts. -/
theorem Expr.clean_renderList :
    ∀ es : List Expr, AllClean (Expr.leavesOfList es) → NoneEmpty (Expr.slotsOfList es) →
      AllClean (Expr.renderList es)
  | [], _, _ => by
    rw [Expr.renderList]
    exact .nil
  | first :: rest, hleaves, hslots => by
    rw [Expr.leavesOfList, AllClean.append_iff] at hleaves
    rw [Expr.slotsOfList, NoneEmpty.append_iff] at hslots
    rw [Expr.renderList]
    exact .cons (first.clean_render hleaves.1 hslots.1)
      (Expr.clean_renderList rest hleaves.2 hslots.2)

/-- Column definitions with clean leaves and without an empty slot have clean texts. -/
theorem Column.clean_renderList :
    ∀ cs : List Column, AllClean (Column.leavesOfList cs) → NoneEmpty (Column.slotsOfList cs) →
      AllClean (Column.renderList cs)
  | [], _, _ => by
    rw [Column.renderList]
    exact .nil
  | first :: rest, hleaves, hslots => by
    rw [Column.leavesOfList, AllClean.append_iff] at hleaves
    rw [Column.slotsOfList, NoneEmpty.append_iff] at hslots
    rw [Column.renderList]
    exact .cons (first.clean_render hleaves.1 hslots.1)
      (Column.clean_renderList rest hleaves.2 hslots.2)

end

/-! ## Statements -/

theorem Target.clean_noun (target : Target) : Clean target.noun := by
  cases target <;> decide

/-- A list of expressions, none of which is empty, has a clean text. -/
theorem Expr.clean_commaList {es : List Expr} (hleaves : AllClean (Expr.leavesOfList es))
    (hslots : NoneEmpty (Expr.renderList es ++ Expr.slotsOfList es)) :
    Clean (commaList (Expr.renderList es)) := by
  rw [NoneEmpty.append_iff] at hslots
  exact SchemaMigration.clean_commaList (Expr.clean_renderList es hleaves hslots.2) hslots.1

/-- An optional expression has a clean text, with any clean text in its place. -/
theorem Expr.clean_option {e : Option Expr} {otherwise : String}
    (hleaves : AllClean (Expr.leavesOfOption e)) (hslots : NoneEmpty (Expr.slotsOfOption e))
    (hotherwise : Clean otherwise) : Clean ((e.map Expr.render).getD otherwise) := by
  cases e with
  | none => exact hotherwise
  | some e => exact e.clean_render hleaves hslots

theorem TableRef.clean_render {ref : TableRef} (h : AllClean ref.leaves) : Clean ref.render := by
  rw [leaves, AllClean.append_iff] at h
  exact clean_words (.cons (ref.table.clean_render h.1) h.2)

theorem ConflictClause.clean_render {clause : ConflictClause} (hleaves : AllClean clause.leaves)
    (hslots : NoneEmpty clause.slots) : Clean clause.render := by
  rw [leaves, AllClean.append_iff] at hleaves
  rw [slots, List.append_assoc, NoneEmpty.append_iff] at hslots
  exact clean_words (.cons (by decide) (.cons (clause.cause.clean_render hleaves.1 hslots.1)
    (.cons (by decide) (.cons (Expr.clean_commaList hleaves.2 hslots.2) .nil))))

theorem Select.clean_render {query : Select} (hleaves : AllClean query.leaves)
    (hslots : NoneEmpty query.slots) : Clean query.render := by
  rw [leaves, AllClean.append_iff, AllClean.append_iff] at hleaves
  rw [slots, NoneEmpty.append_iff] at hslots
  obtain ⟨⟨hcolumns, hsource⟩, hcondition⟩ := hleaves
  exact clean_words (.cons (by decide) (.cons (Expr.clean_commaList hcolumns hslots.1)
    (.cons (by decide) (.cons (query.source.clean_render hsource) (.cons (by decide)
      (.cons (Expr.clean_option hcondition hslots.2 (by decide)) .nil))))))

/-- **Rendered text has tight spacing.** A statement that is built from clean texts, and of which no
part is empty that is written even then, has a clean text. -/
theorem Statement.render_stays_clean (s : Statement) (hleaves : ∀ leaf ∈ s.leaves, Clean leaf)
    (hslots : ∀ slot ∈ s.slots, slot ≠ "") : Clean s.render := by
  change AllClean s.leaves at hleaves
  change NoneEmpty s.slots at hslots
  cases s with
  | alter target name action =>
    rw [leaves, AllClean.append_iff] at hleaves
    exact clean_words (.cons (by decide) (.cons target.clean_noun
      (.cons (name.clean_render hleaves.1) (.cons (action.clean_render hleaves.2 hslots) .nil))))
  | create target name body ifNotExists =>
    rw [leaves, AllClean.append_iff] at hleaves
    have hbody := Expr.clean_option hleaves.2 hslots clean_empty
    rw [render]
    -- A constraint is written as its body alone.
    split
    · exact clean_words (.cons (by decide) (.cons hbody .nil))
    · exact clean_words (.cons (by decide) (.cons target.clean_noun
        (.cons (by cases ifNotExists <;> decide) (.cons (name.clean_render hleaves.1)
          (.cons hbody .nil)))))
  | drop target name =>
    exact clean_words (.cons (by decide) (.cons target.clean_noun
      (.cons (name.clean_render hleaves) .nil)))
  | insert table values onConflict =>
    rw [leaves, AllClean.append_iff, AllClean.append_iff, AllClean.append_iff] at hleaves
    rw [slots, NoneEmpty.append_iff, NoneEmpty.append_iff, NoneEmpty.append_iff] at hslots
    obtain ⟨⟨⟨htable, hfields⟩, hvalues⟩, hconflict⟩ := hleaves
    obtain ⟨⟨⟨hfieldSlots, hvalueSlots⟩, hinner⟩, hconflictSlots⟩ := hslots
    -- The short name of the table is not written here.
    have hname := table.table.clean_render (AllClean.append_iff.mp htable).1
    have htexts := Expr.clean_renderList _ hvalues hinner
    rw [Expr.renderList_eq_map, List.map_map] at htexts
    -- Without a clause its place is empty, and words drops it.
    have hclause : Clean ((onConflict.map ConflictClause.render).getD "") := by
      cases onConflict with
      | none => exact clean_empty
      | some clause => exact clause.clean_render hconflict hconflictSlots
    exact clean_words (.cons (by decide) (.cons hname
      (.cons (clean_parenthesized (clean_commaList hfields hfieldSlots)) (.cons (by decide)
        (.cons (clean_parenthesized (clean_commaList htexts hvalueSlots))
          (.cons hclause .nil))))))
  | update table assignments condition =>
    rw [leaves, AllClean.append_iff, AllClean.append_iff] at hleaves
    rw [slots, NoneEmpty.append_iff] at hslots
    obtain ⟨⟨htable, hassignments⟩, hcondition⟩ := hleaves
    -- The condition is written as it is read: without one, a text that holds everywhere.
    exact clean_words (.cons (by decide) (.cons (table.clean_render htable) (.cons (by decide)
      (.cons (Expr.clean_commaList hassignments hslots.1) (.cons (by decide)
        (.cons (Expr.clean_option hcondition hslots.2 (by decide)) .nil))))))
  | select query => exact query.clean_render hleaves hslots
  | withSelect name inner outer =>
    rw [leaves, AllClean.append_iff, AllClean.cons_iff] at hleaves
    rw [slots, NoneEmpty.append_iff] at hslots
    obtain ⟨⟨hname, hinner⟩, houter⟩ := hleaves
    exact clean_words (.cons (by decide) (.cons hname (.cons (by decide)
      (.cons (clean_parenthesized (inner.clean_render hinner hslots.1))
        (.cons (outer.clean_render houter hslots.2) .nil)))))

/-- The column has no type, its first constraint is empty and the foreign key names no column: none
of this shows in the spacing. -/
theorem render_stays_clean_orders :
    let orders : Statement := .create .table (.qualified "app" "orders")
      (some (.tableBody [.define (.name "buyer") (.name "")
        [.literal "", .binary (.literal "") "" (.literal "not null"),
          .references (.qualified "app" "users") "" "" "cascade"]])) false
    (∀ leaf ∈ orders.leaves, Clean leaf) ∧ (∀ slot ∈ orders.slots, slot ≠ "") ∧
      Clean orders.render ∧
      orders.render =
        "create table app.orders (buyer not null references app.users on update cascade)" := by
  -- Half of the texts are empty here, and the clean ones around them close up.
  intro orders
  have hleaves : ∀ leaf ∈ orders.leaves, Clean leaf := by decide
  have hslots : ∀ slot ∈ orders.slots, slot ≠ "" := by decide
  exact ⟨hleaves, hslots, orders.render_stays_clean hleaves hslots, by decide⟩

/-- An empty slot does show: the text starts with a space. -/
example : ¬Clean (Expr.assign (.name "") (.literal "1")).render := by decide

end SchemaMigration
