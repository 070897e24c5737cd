import SchemaMigration.OutputFormat
import SchemaMigration.Proofs.JsonDistinct
import SchemaMigration.Proofs.JsonIntegers
import SchemaMigration.Proofs.OutputsAgree

/-!
# What is read from an edge document

Whoever orders the statements of several batches has only the JSON text of their edges. Nothing that
belongs to the edges gets lost on the way: the text is read as one entry for each statement, with
its index, its SQL text and its keys (`edge_document_lossless`), whatever characters stand in them.
Two lists of edges have the same text only if they agree in all of that
(`render_edgeDocument_eq_iff`).

Only an index can keep a document from being read, by having more digits than an integer may have
where it is read or written in decimal. The entries of a batch are numbered from zero, so no batch
that fits into a memory has one.
-/

namespace SchemaMigration

/-! ## The entries as values -/

/-- A key as it is read: a mapping of its three levels. -/
def ObjectKey.toValue (key : ObjectKey) : Value :=
  .mapping [(.text "schema", .text key.schema), (.text "object", .text key.object),
    (.text "field", .text key.field)]

/-- The edges of a statement as they are read. -/
def StatementEdges.toValue (edges : StatementEdges) : Value :=
  .mapping [(.text "index", .int edges.index), (.text "sql", .text edges.sql),
    (.text "depended_on", .list (edges.requires.map ObjectKey.toValue)),
    (.text "solved", .list (edges.provides.map ObjectKey.toValue))]

/-- An edge document as it is read. -/
def edgeValue (entries : List StatementEdges) : Value :=
  .mapping [(.text "statements", .list (entries.map StatementEdges.toValue))]

theorem ObjectKey.toValue_outline (key : ObjectKey) : key.outline.toValue = key.toValue := by
  simp [ObjectKey.outline, ObjectKey.toValue, Outline.toValue, Outline.toEntries]

theorem StatementEdges.toValue_outline (edges : StatementEdges) :
    edges.outline.toValue = edges.toValue := by
  simp [StatementEdges.outline, StatementEdges.toValue, Outline.toValue, Outline.toEntries,
    Outline.toValues_eq_map, Function.comp_def, ObjectKey.toValue_outline]

theorem toValue_edgeDocument (entries : List StatementEdges) :
    (edgeDocument entries).toValue = edgeValue entries := by
  simp [edgeDocument, edgeValue, Outline.toValue, Outline.toEntries, Outline.toValues_eq_map,
    Function.comp_def, StatementEdges.toValue_outline]

/-! ## The integers in it -/

theorem integersOfList_keys (keys : List ObjectKey) :
    Value.integersOfList (keys.map ObjectKey.toValue) = [] := by
  induction keys with
  | nil => rfl
  | cons first rest ih =>
    rw [List.map_cons, Value.integersOfList, ih]
    rfl

theorem StatementEdges.integers_toValue (edges : StatementEdges) :
    edges.toValue.integers = [(edges.index : Int)] := by
  simp [StatementEdges.toValue, Value.integers, Value.integersOfEntries, integersOfList_keys]

/-- The only integers of an edge document are the indices. -/
theorem integers_edgeValue (entries : List StatementEdges) :
    (edgeValue entries).integers = entries.map fun edges => (edges.index : Int) := by
  have hitems : Value.integersOfList (entries.map StatementEdges.toValue) =
      entries.map fun edges => (edges.index : Int) := by
    -- The keys of an entry have no integer in them, so each entry has one.
    induction entries with
    | nil => rfl
    | cons first rest ih =>
      rw [List.map_cons, Value.integersOfList, first.integers_toValue, ih]
      rfl
  simp [edgeValue, Value.integers, Value.integersOfEntries, hitems]

theorem writable_edgeValue_iff {entries : List StatementEdges} :
    (edgeValue entries).Writable ↔
      ∀ edges ∈ entries, Digits.isWritable edges.index = true := by
  rw [Value.Writable, integers_edgeValue, List.forall_mem_map]

/-- An edge document is read as its entries unless an index has too many digits. -/
theorem read_edgeDocument_iff {entries : List StatementEdges} :
    Json.read (OutputFormat.json.render (edgeDocument entries)) = .ok (edgeValue entries) ↔
      ∀ edges ∈ entries, Digits.isWritable edges.index = true := by
  constructor
  · intro hread
    exact writable_edgeValue_iff.mp (Json.writable_of_read hread)
  · intro h
    have hread := Json.read_render (isReadable_edgeDocument h) "" nofun
    rwa [String.append_empty, toValue_edgeDocument] at hread

/-! ## Agreement -/

/-- Two entries agree on everything that is written about them. -/
structure StatementEdges.Agrees (edges other : StatementEdges) : Prop where
  index : edges.index = other.index
  sql : edges.sql = other.sql
  requires : edges.requires = other.requires
  provides : edges.provides = other.provides

theorem ObjectKey.outline_injective : Function.Injective ObjectKey.outline := by
  intro key other h
  obtain ⟨schema, object, field⟩ := key
  obtain ⟨schema', object', field'⟩ := other
  simpa [ObjectKey.outline] using h

theorem StatementEdges.outline_eq_iff {edges other : StatementEdges} :
    edges.outline = other.outline ↔ edges.Agrees other := by
  have hkeys (keys keys' : List ObjectKey) :
      keys.map ObjectKey.outline = keys'.map ObjectKey.outline ↔ keys = keys' :=
    (List.map_injective_iff.mpr ObjectKey.outline_injective).eq_iff
  constructor
  -- Every field of an entry is a field of its record.
  · intro h
    simp only [StatementEdges.outline, Outline.record.injEq, List.cons.injEq, Prod.mk.injEq,
      true_and, and_true, Outline.number.injEq, Outline.text.injEq, Outline.list.injEq, hkeys] at h
    exact ⟨h.1, h.2.1, h.2.2.1, h.2.2.2⟩
  · intro h
    rw [StatementEdges.outline, StatementEdges.outline, h.index, h.sql, h.requires, h.provides]

theorem edgeDocument_eq_iff {entries others : List StatementEdges} :
    edgeDocument entries = edgeDocument others ↔
      List.Forall₂ StatementEdges.Agrees entries others := by
  have hentries : edgeDocument entries = edgeDocument others ↔
      entries.map StatementEdges.outline = others.map StatementEdges.outline := by
    simp [edgeDocument]
  rw [hentries, ← List.forall₂_eq_eq_eq, List.forall₂_map_left_iff, List.forall₂_map_right_iff]
  simp only [StatementEdges.outline_eq_iff]

/-- Edges are written alike only if they agree, however long their numbers are. -/
theorem render_edgeDocument_eq_iff {entries others : List StatementEdges} :
    OutputFormat.json.render (edgeDocument entries) =
        OutputFormat.json.render (edgeDocument others) ↔
      List.Forall₂ StatementEdges.Agrees entries others :=
  Json.render_injective.eq_iff.trans edgeDocument_eq_iff

/-- **The edge document loses nothing.** It is read as one entry for each statement, in order, with
all that belongs to its edges, unless an index has more digits than an integer may have. Two lists
of edges have the same text exactly if they agree entry by entry. -/
theorem edge_document_lossless (entries : List StatementEdges) :
    (Json.read (OutputFormat.json.render (edgeDocument entries)) = .ok (edgeValue entries) ↔
      ∀ edges ∈ entries, Digits.isWritable edges.index = true) ∧
    ∀ others : List StatementEdges,
      OutputFormat.json.render (edgeDocument entries) =
          OutputFormat.json.render (edgeDocument others) ↔
        List.Forall₂ StatementEdges.Agrees entries others :=
  ⟨read_edgeDocument_iff, fun _ => render_edgeDocument_eq_iff⟩

end SchemaMigration
