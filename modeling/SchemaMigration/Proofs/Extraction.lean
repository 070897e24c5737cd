import SchemaMigration.Batch.Edges
import SchemaMigration.Proofs.LoggedSteps

/-!
# Extracting the edges of a batch

The result, the error and the log of every run.

Extraction walks a batch from its first statement and stops at the first one with a name that does
not resolve. One step either adds the entry of a statement and a record about it, or ends the run
without a record (`Batch.edgesFrom_cons_ok`, `Batch.edgesFrom_cons_error`). By induction over the
statements that have edges, a run leaves their entries and their records in front of whatever the
remaining statements give (`Batch.edgesFrom_append`). Both endings of a run follow, with and without
a statement that fails (`Batch.edges_outcome`).
-/

namespace SchemaMigration

/-! ## One statement -/

/-- A name of the statement does not resolve, and this is the one that is reported: what the
statement needs is looked at before what it provides. -/
def Statement.FailsWith (s : Statement) (cause : Identifier.Unresolvable) : Prop :=
  s.requires = .error cause ∨ (∃ needed, s.requires = .ok needed) ∧ s.provides = .error cause

/-- Some name of the statement does not resolve. -/
def Statement.Fails (s : Statement) : Prop := ∃ cause, s.FailsWith cause

namespace StatementEdges

/-- The entry of a statement at its place in the batch: the statement itself, its SQL text and its
edges. -/
structure Describes (edges : StatementEdges) (index : Nat) (s : Statement) : Prop where
  index_eq : edges.index = index
  statement_eq : edges.statement = s
  sql_eq : edges.sql = s.render
  requires_eq : s.requires = .ok edges.requires
  provides_eq : s.provides = .ok edges.provides

/-- The record that is logged about an entry. -/
def record (edges : StatementEdges) : LogRecord := ⟨.debug, logSource, edges.note⟩

/-- A statement that fails gives its place, its text and the name that does not resolve. -/
theorem of_eq_error {s : Statement} {cause : Identifier.Unresolvable} (h : s.FailsWith cause)
    (index : Nat) : StatementEdges.of index s = .error ⟨index, s.render, cause⟩ := by
  unfold StatementEdges.of
  rcases h with hrequires | ⟨⟨needed, hrequires⟩, hprovides⟩
  · rw [hrequires]
    rfl
  · rw [hrequires, hprovides]
    rfl

/-- A statement that does not fail gives an entry that describes it. -/
theorem exists_of_eq_ok {s : Statement} (h : ¬ s.Fails) (index : Nat) :
    ∃ edges, StatementEdges.of index s = .ok edges ∧ edges.Describes index s := by
  -- What is needed is asked for before what is provided.
  cases hrequires : s.requires with
  | error cause => exact absurd ⟨cause, .inl hrequires⟩ h
  | ok needed =>
    cases hprovides : s.provides with
    | error cause => exact absurd ⟨cause, .inr ⟨⟨needed, hrequires⟩, hprovides⟩⟩ h
    | ok provided =>
      refine ⟨⟨index, s, s.render, needed, provided⟩, ?_, rfl, rfl, rfl, hrequires, hprovides⟩
      unfold StatementEdges.of
      rw [hrequires, hprovides]
      rfl

end StatementEdges

namespace Batch

/-! ## One step of a run -/

/-- A statement with edges puts its entry in front of the rest, and its record too. -/
theorem edgesFrom_cons_ok {index : Nat} {s : Statement} {edges : StatementEdges}
    (h : StatementEdges.of index s = .ok edges) (rest : Batch) :
    edgesFrom index (s :: rest) =
      ⟨edges.record :: (edgesFrom (index + 1) rest).records,
        (edgesFrom (index + 1) rest).result.map (edges :: ·)⟩ := by
  -- The entry is there, so the record is logged, and the rest decides.
  rw [edgesFrom, Logged.bind_of_ok edges _ h, Logged.bind_of_ok () _ rfl]
  cases hrest : (edgesFrom (index + 1) rest).result with
  | error error =>
    rw [Logged.bind_of_error error _ hrest]
    rfl
  | ok more =>
    rw [Logged.bind_of_ok more _ hrest]
    simp only [Logged.ofExcept, Logged.log, pure, Logged.pure, List.nil_append, List.append_nil]
    rfl

/-- A statement that fails ends the run, and nothing is logged about it. -/
theorem edgesFrom_cons_error {index : Nat} {s : Statement} {error : DependencyError}
    (h : StatementEdges.of index s = .error error) (rest : Batch) :
    edgesFrom index (s :: rest) = ⟨[], .error error⟩ := by
  rw [edgesFrom, Logged.bind_of_error error _ h]
  rfl

/-! ## A whole run -/

/-- The entries describe the statements of a batch one by one, counted from the given index. -/
inductive DescribedFrom : Nat → Batch → List StatementEdges → Prop where
  | nil (index : Nat) : DescribedFrom index [] []
  | cons {index : Nat} {s : Statement} {rest : Batch} {edges : StatementEdges}
      {more : List StatementEdges} (hof : StatementEdges.of index s = .ok edges)
      (hedges : edges.Describes index s) (hrest : DescribedFrom (index + 1) rest more) :
      DescribedFrom index (s :: rest) (edges :: more)

/-- Statements that do not fail have entries. -/
theorem exists_describedFrom {batch : Batch} (h : ∀ s ∈ batch, ¬ s.Fails) :
    ∀ index, ∃ entries, DescribedFrom index batch entries := by
  induction batch with
  | nil => exact fun index => ⟨[], .nil index⟩
  | cons s rest ih =>
    intro index
    obtain ⟨edges, hof, hedges⟩ := StatementEdges.exists_of_eq_ok (h s List.mem_cons_self) index
    have hrest : ∀ later ∈ rest, ¬ later.Fails :=
      fun later hlater => h later (List.mem_cons_of_mem s hlater)
    obtain ⟨more, hmore⟩ := ih hrest (index + 1)
    exact ⟨edges :: more, .cons hof hedges hmore⟩

theorem DescribedFrom.length_eq {index : Nat} {batch : Batch} {entries : List StatementEdges}
    (h : DescribedFrom index batch entries) : entries.length = batch.length := by
  induction h with
  | nil index => rfl
  | cons _ _ _ ih => rw [List.length_cons, List.length_cons, ih]

/-- The entry at a place of the list describes the statement at that place of the batch. -/
theorem DescribedFrom.getElem? {index : Nat} {batch : Batch} {entries : List StatementEdges}
    (h : DescribedFrom index batch entries) :
    ∀ (k : Nat) (s : Statement), batch[k]? = some s →
      ∃ edges, entries[k]? = some edges ∧ edges.Describes (index + k) s := by
  -- The induction moves the first index along, so it is stated for every position.
  induction h with
  | nil index =>
    intro k s hs
    cases hs
  | @cons index head rest edges more _ hedges _ ih =>
    intro k s hs
    cases k with
    | zero =>
      cases hs
      exact ⟨edges, rfl, hedges⟩
    | succ k =>
      obtain ⟨found, hfound, hdescribes⟩ := ih k s hs
      rw [show index + 1 + k = index + (k + 1) from by omega] at hdescribes
      exact ⟨found, hfound, hdescribes⟩

/-- **A run past statements that have edges.** Their entries and records come first, and then
whatever the rest of the batch gives when it is counted on from there. -/
theorem edgesFrom_append {index : Nat} {before : Batch} {entries : List StatementEdges}
    (h : DescribedFrom index before entries) (after : Batch) :
    edgesFrom index (before ++ after) =
      ⟨entries.map StatementEdges.record ++ (edgesFrom (index + before.length) after).records,
        (edgesFrom (index + before.length) after).result.map (entries ++ ·)⟩ := by
  -- Each statement in front adds its entry and its record, whatever the rest comes to.
  induction h with
  | nil index =>
    rw [List.nil_append, List.map_nil, List.nil_append, List.length_nil, Nat.add_zero]
    cases hafter : (edgesFrom index after).result with
    | error error => rw [Except.map, ← hafter]
    | ok more => rw [Except.map, List.nil_append, ← hafter]
  | @cons index head rest edges more hof _ _ ih =>
    rw [List.cons_append, edgesFrom_cons_ok hof, ih, List.length_cons,
      show index + 1 + rest.length = index + (rest.length + 1) from by omega]
    cases (edgesFrom (index + (rest.length + 1)) after).result with
    | error error => rfl
    | ok others => rfl

/-! ## Both endings of a run -/

/-- The record at the end of a run that extracted the edges of so many statements. -/
def summary (count : Nat) : LogRecord :=
  ⟨.info, StatementEdges.logSource, s!"Extracted dependency edges for {count} statements"⟩

/-- The entries are those of a batch: one for each statement, in the order of the batch. -/
def DescribedBy (batch : Batch) (entries : List StatementEdges) : Prop :=
  entries.length = batch.length ∧
    ∀ (k : Nat) (s : Statement), batch[k]? = some s →
      ∃ entry, entries[k]? = some entry ∧ StatementEdges.Describes entry k s

theorem DescribedFrom.describedBy {batch : Batch} {entries : List StatementEdges}
    (h : DescribedFrom 0 batch entries) : DescribedBy batch entries := by
  refine ⟨h.length_eq, ?_⟩
  intro k s hs
  have hentry := h.getElem? k s hs
  rwa [Nat.zero_add] at hentry

/-- A run without a failing statement ends with the summary. -/
theorem edges_of_describedFrom {batch : Batch} {entries : List StatementEdges}
    (h : DescribedFrom 0 batch entries) :
    batch.edges = ⟨entries.map StatementEdges.record ++ [summary batch.length], .ok entries⟩ := by
  -- A batch is a list of statements with nothing behind it.
  have hrun := edgesFrom_append h []
  rw [List.append_nil] at hrun
  have hresult : (edgesFrom 0 batch).result = .ok entries := by
    rw [hrun]
    show Except.ok (entries ++ []) = _
    rw [List.append_nil]
  have hrecords : (edgesFrom 0 batch).records = entries.map StatementEdges.record := by
    rw [hrun]
    exact List.append_nil _
  rw [edges, Logged.bind_of_ok entries _ hresult, Logged.bind_of_ok () _ rfl, hrecords,
    ← h.length_eq]
  rfl

/-- A run up to a failing statement ends with its error and without a summary. -/
theorem edges_of_fails {before : Batch} {s : Statement} {cause : Identifier.Unresolvable}
    {entries : List StatementEdges} (h : DescribedFrom 0 before entries) (hs : s.FailsWith cause)
    (after : Batch) :
    Batch.edges (before ++ s :: after) =
      ⟨entries.map StatementEdges.record, .error ⟨before.length, s.render, cause⟩⟩ := by
  have hrun := edgesFrom_append h (s :: after)
  rw [edgesFrom_cons_error (StatementEdges.of_eq_error hs _), Nat.zero_add] at hrun
  rw [edges, hrun, Logged.bind_of_error ⟨before.length, s.render, cause⟩ _ rfl]
  exact congrArg (Logged.mk · _) (List.append_nil _)

/-- Every batch either has entries for all of its statements, or else it falls apart into
statements that have entries, one that fails, and the rest. -/
theorem describedFrom_or_fails (batch : Batch) (index : Nat) :
    (∃ entries, DescribedFrom index batch entries) ∨
      ∃ before s after entries cause, batch = before ++ s :: after ∧
        DescribedFrom index before entries ∧ s.FailsWith cause := by
  induction batch generalizing index with
  | nil => exact .inl ⟨[], .nil index⟩
  | cons s rest ih =>
    -- The first statement that fails ends the part that has edges.
    by_cases hs : s.Fails
    · obtain ⟨cause, hcause⟩ := hs
      exact .inr ⟨[], s, rest, [], cause, rfl, .nil index, hcause⟩
    · obtain ⟨edges, hof, hedges⟩ := StatementEdges.exists_of_eq_ok hs index
      rcases ih (index + 1) with
        ⟨more, hmore⟩ | ⟨before, found, after, more, cause, rfl, hmore, hcause⟩
      · exact .inl ⟨edges :: more, .cons hof hedges hmore⟩
      · exact .inr ⟨s :: before, found, after, edges :: more, cause, rfl, .cons hof hedges hmore,
          hcause⟩

/-- The result of a run: the entries of the batch, or a statement of it that fails. -/
theorem edges_result_cases (batch : Batch) :
    (∃ entries, DescribedBy batch entries ∧ batch.edges.result = .ok entries) ∨
      ∃ i s cause, batch[i]? = some s ∧ s.FailsWith cause ∧
        batch.edges.result = .error ⟨i, s.render, cause⟩ := by
  rcases describedFrom_or_fails batch 0 with
    ⟨entries, hentries⟩ | ⟨before, s, after, entries, cause, rfl, hentries, hcause⟩
  · refine .inl ⟨entries, hentries.describedBy, ?_⟩
    rw [edges_of_describedFrom hentries]
  · refine .inr ⟨before.length, s, cause, ?_, hcause, ?_⟩
    · rw [List.getElem?_append_right (Nat.le_refl _), Nat.sub_self, List.getElem?_cons_zero]
    · rw [edges_of_fails hentries hcause]

/-- **Every run of the extraction.** Without a failing statement it gives the entries of the batch,
one record about each and then the summary. Otherwise it gives the place and the text of the first
statement that fails, with the name that does not resolve, and only the records about the
statements in front of that one. -/
theorem edges_outcome (batch : Batch) :
    ((∀ s ∈ batch, ¬ s.Fails) →
      ∃ entries, DescribedBy batch entries ∧ batch.edges.result = .ok entries ∧
        batch.edges.records = entries.map StatementEdges.record ++ [summary batch.length]) ∧
    (∀ i s cause, batch[i]? = some s → (∀ j < i, ∀ earlier, batch[j]? = some earlier →
        ¬ earlier.Fails) → s.FailsWith cause →
      batch.edges.result = .error ⟨i, s.render, cause⟩ ∧
        ∃ entries, DescribedBy (batch.take i) entries ∧
          batch.edges.records = entries.map StatementEdges.record) := by
  constructor
  · intro hbatch
    obtain ⟨entries, hentries⟩ := exists_describedFrom hbatch 0
    rw [edges_of_describedFrom hentries]
    exact ⟨entries, hentries.describedBy, rfl, rfl⟩
  · intro i s cause hs hbefore hfails
    obtain ⟨hi, hget⟩ := List.getElem?_eq_some_iff.mp hs
    -- The batch falls apart into what stands in front of the statement, itself and the rest.
    have hsplit : batch = batch.take i ++ s :: batch.drop (i + 1) := by
      rw [← hget, ← List.drop_eq_getElem_cons hi, List.take_append_drop]
    have hlength : (batch.take i).length = i := List.length_take_of_le (Nat.le_of_lt hi)
    have hfront : ∀ earlier ∈ batch.take i, ¬ earlier.Fails := by
      intro earlier hearlier
      obtain ⟨j, hj⟩ := List.mem_iff_getElem?.mp hearlier
      rw [List.getElem?_take] at hj
      split at hj
      · next hlt => exact hbefore j hlt earlier hj
      · cases hj
    obtain ⟨entries, hentries⟩ := exists_describedFrom hfront 0
    have hrun := edges_of_fails hentries hfails (batch.drop (i + 1))
    rw [← hsplit, hlength] at hrun
    rw [hrun]
    exact ⟨rfl, entries, hentries.describedBy, rfl⟩

/-- The name of the changed table and the table of the foreign key both lack a schema. The foreign
key is needed, so its table is the name that is reported, for the second of three statements. -/
theorem edges_outcome_foreign_key :
    let created : Statement := .create .table (.name "app.users") none false
    let changed : Statement := .alter .table (.name "orders")
      (.addConstraint (.name "buyer") (.references (.name "users") "id" "" ""))
    (∃ entries, DescribedBy [created] entries ∧ (edges [created]).result = .ok entries ∧
      (edges [created]).records = entries.map StatementEdges.record ++ [summary 1]) ∧
    (edges [created, changed, changed]).result =
      .error ⟨1, changed.render, ⟨"users", .table⟩⟩ ∧
    ∃ entries, DescribedBy [created] entries ∧
      (edges [created, changed, changed]).records = entries.map StatementEdges.record := by
  intro created changed
  have hcreated : ¬ created.Fails := by
    rintro ⟨cause, hrequires | ⟨_, hprovides⟩⟩
    · cases hrequires
    · cases hprovides
  have hchanged : changed.FailsWith ⟨"users", .table⟩ := .inl rfl
  refine ⟨(edges_outcome [created]).1 ?_, (edges_outcome _).2 1 changed _ rfl ?_ hchanged⟩
  · intro s hs
    rw [List.mem_singleton.mp hs]
    exact hcreated
  · intro j hj earlier hearlier
    obtain rfl : j = 0 := by omega
    cases hearlier
    exact hcreated

end Batch

end SchemaMigration
