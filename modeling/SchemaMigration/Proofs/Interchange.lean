import SchemaMigration.Proofs.Spelling

/-!
# Values that can stand for one another in a document

How a value is read depends on where it stands: the same text is a literal as an expression, a name
as an identifier, and the name of a kind under the key `kind`. These are the positions of a document
(`Document.Position`), each with the result that a value is read as there
(`Document.Position.ReadAs`). Two values are interchangeable in a position when they are read as the
same results, or both as none.

The readers of mappings look at their keys and at nothing else. So a mapping can be changed part by
part: when every key of two mappings holds the same value, or values that are interchangeable in the
position of that key, the two spell the same expression (`ExprKind.Spells.of_sameParts`) or the same
statement (`StatementKind.Spells.of_sameParts`).
-/

namespace SchemaMigration

namespace Document

/-! ## Positions -/

/-- What a value of a document can be read as. -/
inductive Position where
  | batch
  | statement
  | select
  /-- The fields and values of an insert. -/
  | row
  /-- One field with its value, in a list of them. -/
  | pair
  | conflict
  | expression
  | column
  | table
  | identifier
  /-- The name of a kind or of a target, in any case. -/
  | keyword
  | list (position : Position)

/-- The word that a value writes, in lower case. -/
def keywordOfValue (value : Value) : Loading String := do
  return Text.lower (← shown value)

namespace Position

/-- The results of a position. -/
def Result : Position → Type
  | batch => Batch
  | statement => Statement
  | select => Select
  | row => List (String × Expr)
  | pair => String × Expr
  | conflict => ConflictClause
  | expression => Expr
  | column => Column
  | table => TableRef
  | identifier => Identifier
  | keyword => String
  | list position => List position.Result

/-- A value in the position is accepted, and this is the result. -/
def ReadAs : (position : Position) → Value → position.Result → Prop
  | batch, value, found => Batch.ofValue value = .ok found
  | statement, value, found => Statement.ofValue value = .ok found
  | select, value, found => Select.ofValue value = .ok found
  | row, value, found => ∃ pairs, pairsOfValue value = .ok pairs ∧ rowOfPairs pairs = .ok found
  | pair, value, found => ∃ written, SpellsPair value written ∧ SpellsCell written found
  | conflict, value, found => conflictOfValue value = .ok found
  | expression, value, found => Expr.ofValue value = .ok found
  | column, value, found => Column.ofValue value = .ok found
  | table, value, found => TableRef.ofValue value = .ok found
  | identifier, value, found => Identifier.ofValue value = .ok found
  | keyword, value, found => keywordOfValue value = .ok found
  | list position, value, found =>
    ∃ items, value.content = .list items ∧ List.Forall₂ position.ReadAs items found

end Position

/-- Two values that are there, and that are read as the same results. -/
structure Interchangeable (position : Position) (value value' : Value) : Prop where
  isNull_left : value.isNull = false
  isNull_right : value'.isNull = false
  readAs_iff (result : position.Result) :
    position.ReadAs value result ↔ position.ReadAs value' result

theorem Interchangeable.symm {position : Position} {value value' : Value}
    (h : Interchangeable position value value') : Interchangeable position value' value :=
  ⟨h.isNull_right, h.isNull_left, fun result => (h.readAs_iff result).symm⟩

/-! ## Keys of two mappings -/

/-- Every key holds the same in both mappings, or values that are interchangeable in the position
which the parts give to that key. -/
def SameParts (parts : List (String × Position)) (entries entries' : Entries) : Prop :=
  ∀ key, entries.get? key = entries'.get? key ∨
    ∃ position value value', parts.lookup key = some position ∧
      entries.get? key = some value ∧ entries'.get? key = some value' ∧
      Interchangeable position value value'

section Keys

variable {parts : List (String × Position)} {entries entries' : Entries} {key : String}
  {position : Position} {α : Type}

theorem optional_eq_of_get?_eq (h : entries.get? key = entries'.get? key) :
    (optional entries key).map Subtype.val = (optional entries' key).map Subtype.val := by
  cases hfound : optional entries key with
  | none =>
    -- A key that is absent or null is so in both.
    have hnone : optional entries' key = none := by
      rw [optional_eq_none_iff] at hfound ⊢
      rwa [← h]
    rw [hnone]
    rfl
  | some found =>
    obtain ⟨hget, hnull⟩ := optional_eq_some_iff.mp hfound
    have hget' : entries'.get? key = some found.1 := h.symm.trans hget
    have hsome : optional entries' key = some ⟨found.1, Entries.sizeOf_get?_lt hget'⟩ :=
      optional_eq_some_iff.mpr ⟨hget', hnull⟩
    rw [hsome]
    rfl

theorem flag_eq_of_get?_eq (h : entries.get? key = entries'.get? key) :
    flag entries key = flag entries' key := by
  have hvalue := optional_eq_of_get?_eq h
  unfold flag
  cases hfound : optional entries key with
  | none =>
    rw [hfound, eq_comm, Option.map_none, Option.map_eq_none_iff] at hvalue
    rw [hvalue]
  | some found =>
    rw [hfound, Option.map_some, eq_comm, Option.map_eq_some_iff] at hvalue
    obtain ⟨found', hfound', hsame⟩ := hvalue
    simp only [hfound', hsame]

theorem textOrEmpty_eq_of_get?_eq (h : entries.get? key = entries'.get? key) :
    textOrEmpty entries key = textOrEmpty entries' key := by
  unfold textOrEmpty
  rw [h]

theorem Reads.of_get?_eq {read : Value → Loading α} {result : α}
    (h : entries.get? key = entries'.get? key) (hreads : Reads entries key read result) :
    Reads entries' key read result := by
  obtain ⟨value, hget, hnull, hread⟩ := hreads
  exact ⟨value, h.symm.trans hget, hnull, hread⟩

theorem keywordOfValue_eq_ok_iff {value : Value} {word : String} :
    keywordOfValue value = .ok word ↔ ∃ text, shown value = .ok text ∧ Text.lower text = word := by
  simp only [keywordOfValue, Loading.bind_eq_ok_iff, Loading.pure_eq_ok_iff]

theorem kindText_eq_ok_iff {kind : String} :
    kindText entries = .ok kind ↔ Reads entries "kind" keywordOfValue kind := by
  simp only [kindText, Loading.bind_eq_ok_iff, Loading.pure_eq_ok_iff, Subtype.exists,
    require_eq_ok_iff, ← keywordOfValue_eq_ok_iff]
  constructor
  · intro h
    obtain ⟨value, _, ⟨hget, hnull⟩, hread⟩ := h
    exact ⟨value, hget, hnull, hread⟩
  · intro h
    obtain ⟨value, hget, hnull, hread⟩ := h
    exact ⟨value, Entries.sizeOf_get?_lt hget, ⟨hget, hnull⟩, hread⟩

theorem targetOfValue_eq_ok_iff {value : Value} {target : Target} :
    Target.ofValue value = .ok target ↔
      ∃ word, keywordOfValue value = .ok word ∧ Target.ofNoun? word = some target := by
  simp only [Target.ofValue, keywordOfValue_eq_ok_iff, Loading.bind_eq_ok_iff]
  constructor
  · intro h
    obtain ⟨text, htext, h⟩ := h
    -- A word that is no noun is no target.
    split at h
    · next found hfound =>
      rw [Loading.pure_eq_ok_iff] at h
      exact ⟨_, ⟨text, htext, rfl⟩, h ▸ hfound⟩
    · cases h
  · intro h
    obtain ⟨_, ⟨text, htext, rfl⟩, hfound⟩ := h
    refine ⟨text, htext, ?_⟩
    rw [hfound]
    rfl

namespace SameParts

theorem symm (h : SameParts parts entries entries') : SameParts parts entries' entries := by
  intro key
  rcases h key with hget | ⟨position, value, value', hkey, hget, hget', hvalues⟩
  · exact .inl hget.symm
  · exact .inr ⟨position, value', value, hkey, hget', hget, hvalues.symm⟩

/-- A key without a position holds the same in both. -/
theorem get?_eq (h : SameParts parts entries entries') (hkey : parts.lookup key = none) :
    entries.get? key = entries'.get? key := by
  rcases h key with hget | ⟨position, _, _, hposition, _⟩
  · exact hget
  · rw [hkey] at hposition
    cases hposition

/-- At a key with a position, what one mapping holds is interchangeable with what the other does. -/
theorem cases_of_position (h : SameParts parts entries entries') (key : String)
    (hkey : parts.lookup key = some position) :
    entries.get? key = entries'.get? key ∨
      ∃ value value', entries.get? key = some value ∧ entries'.get? key = some value' ∧
        Interchangeable position value value' := by
  -- The key has one position, whatever the two mappings hold there.
  rcases h key with hget | ⟨other, value, value', hposition, hget, hget', hvalues⟩
  · exact .inl hget
  · have hother : other = position := Option.some.inj (hposition.symm.trans hkey)
    subst hother
    exact .inr ⟨value, value', hget, hget', hvalues⟩

/-- What is read under a key of one mapping is read under the same key of the other. -/
theorem exists_readAs (h : SameParts parts entries entries') (position : Position)
    (hkey : parts.lookup key = some position) {value : Value} {result : position.Result}
    (hget : entries.get? key = some value) (hnull : value.isNull = false)
    (hread : position.ReadAs value result) :
    ∃ value', entries'.get? key = some value' ∧ value'.isNull = false ∧
      position.ReadAs value' result := by
  rcases h.cases_of_position key hkey with hsame | ⟨found, found', hfound, hfound', hvalues⟩
  -- The value may be another one, but it is read as the same results.
  · exact ⟨value, hsame.symm.trans hget, hnull, hread⟩
  · have hvalue : value = found := Option.some.inj (hget.symm.trans hfound)
    rw [hvalue, hvalues.readAs_iff] at hread
    exact ⟨found', hfound', hvalues.isNull_right, hread⟩

theorem reads (h : SameParts parts entries entries') (position : Position)
    (hkey : parts.lookup key = some position) {read : Value → Loading position.Result}
    {result : position.Result}
    (hread : ∀ value, position.ReadAs value result ↔ read value = .ok result)
    (hreads : Reads entries key read result) : Reads entries' key read result := by
  obtain ⟨value, hget, hnull, hresult⟩ := hreads
  obtain ⟨value', hget', hnull', hresult'⟩ :=
    h.exists_readAs position hkey hget hnull ((hread value).mpr hresult)
  exact ⟨value', hget', hnull', (hread value').mp hresult'⟩

theorem readsIdentifier (h : SameParts parts entries entries')
    (hkey : parts.lookup key = some .identifier) {name : Identifier}
    (hname : Reads entries key Identifier.ofValue name) :
    Reads entries' key Identifier.ofValue name :=
  h.reads .identifier hkey (fun _ => Iff.rfl) hname

theorem readsExpr (h : SameParts parts entries entries')
    (hkey : parts.lookup key = some .expression) {e : Expr}
    (he : Reads entries key Expr.ofValue e) : Reads entries' key Expr.ofValue e :=
  h.reads .expression hkey (fun _ => Iff.rfl) he

theorem readsTable (h : SameParts parts entries entries')
    (hkey : parts.lookup key = some .table) {table : TableRef}
    (htable : Reads entries key TableRef.ofValue table) :
    Reads entries' key TableRef.ofValue table :=
  h.reads .table hkey (fun _ => Iff.rfl) htable

theorem readsOptional (h : SameParts parts entries entries') (position : Position)
    (hkey : parts.lookup key = some position) {read : Value → Loading position.Result}
    {result : Option position.Result}
    (hread : ∀ value found, position.ReadAs value found ↔ read value = .ok found)
    (hreads : ReadsOptional entries key read result) : ReadsOptional entries' key read result := by
  cases hreads with
  | present hpresent => exact .present (h.reads position hkey (hread · _) hpresent)
  | absent habsent =>
    refine .absent fun found hfound => ?_
    rcases h.cases_of_position key hkey with hget | ⟨value, value', hget, _, hvalues⟩
    · exact habsent found (hget.trans hfound)
    · -- A key with interchangeable values is there, and neither of them is null.
      have hnull := habsent value hget
      rw [hvalues.isNull_left] at hnull
      cases hnull

theorem readsList (h : SameParts parts entries entries') (position : Position)
    (hkey : parts.lookup key = some (.list position)) {read : Value → Loading position.Result}
    {results : List position.Result}
    (hread : ∀ value found, position.ReadAs value found ↔ read value = .ok found)
    (hreads : ReadsList entries key read results) : ReadsList entries' key read results := by
  have hitems : ∀ items, List.Forall₂ position.ReadAs items results ↔
      ReadsItems read items results := by
    intro items
    simp only [ReadsItems, ← hread]
  rcases h.cases_of_position key hkey with hget | ⟨value, value', hget, hget', hvalues⟩
  · cases hreads with
    | absent habsent => exact .absent (hget.symm.trans habsent)
    | present hpresent hcontent hresults =>
      exact .present (hget.symm.trans hpresent) hcontent hresults
  · cases hreads with
    | absent habsent => cases habsent.symm.trans hget
    -- Both lists hold items that are read as the same results, one by one.
    | @present found items _ hfound hcontent hresults =>
      have hsame : found = value := Option.some.inj (hfound.symm.trans hget)
      subst hsame
      obtain ⟨items', hcontent', hresults'⟩ :=
        (hvalues.readAs_iff results).mp ⟨items, hcontent, (hitems items).mpr hresults⟩
      exact .present hget' hcontent' ((hitems items').mp hresults')

theorem kindText_eq_ok (h : SameParts parts entries entries')
    (hkey : parts.lookup "kind" = some .keyword) {kind : String}
    (hkind : kindText entries = .ok kind) : kindText entries' = .ok kind := by
  rw [kindText_eq_ok_iff] at hkind ⊢
  exact h.reads .keyword hkey (fun _ => Iff.rfl) hkind

theorem readsTarget (h : SameParts parts entries entries')
    (hkey : parts.lookup "target" = some .keyword) {target : Target}
    (htarget : Reads entries "target" Target.ofValue target) :
    Reads entries' "target" Target.ofValue target := by
  obtain ⟨value, hget, hnull, hvalue⟩ := htarget
  obtain ⟨word, hword, hfound⟩ := targetOfValue_eq_ok_iff.mp hvalue
  obtain ⟨value', hget', hnull', hword'⟩ :=
    h.reads .keyword hkey (fun _ => Iff.rfl) ⟨value, hget, hnull, hword⟩
  exact ⟨value', hget', hnull', targetOfValue_eq_ok_iff.mpr ⟨word, hword', hfound⟩⟩

end SameParts

end Keys

end Document

/-! ## Expressions -/

open Document

/-- The keys of an expression of a kind under which other things are read, with their positions. -/
def ExprKind.parts (kind : ExprKind) : List (String × Position) :=
  ("kind", .keyword) ::
    match kind with
    | literal => []
    | ident => [("ident", .identifier)]
    | binary => [("left", .expression), ("right", .expression)]
    | assign => [("field", .identifier), ("value", .expression)]
    | references => [("table", .identifier)]
    | column =>
      [("name", .identifier), ("type", .identifier), ("constraints", .list .expression)]
    | tableBody => [("fields", .list .column)]
    | addColumn => [("field", .column)]
    | dropColumn => [("name", .identifier)]
    | addConstraint => [("name", .identifier), ("body", .expression)]
    | renameTo => [("new_name", .identifier)]

section Expressions

variable {entries entries' : Entries}

theorem Column.Spelled.of_sameParts {c : Column}
    (h : SameParts ExprKind.column.parts entries entries') (hspelled : c.Spelled entries) :
    c.Spelled entries' := by
  cases c with
  | define name dataType constraints =>
    obtain ⟨hname, htype, hconstraints⟩ := hspelled
    exact ⟨h.readsIdentifier rfl hname,
      h.readsIdentifier rfl htype,
      h.readsList .expression rfl (fun _ _ => Iff.rfl) hconstraints⟩

theorem ExprKind.Spells.of_sameParts {kind : ExprKind} {e : Expr}
    (h : SameParts kind.parts entries entries') (hspells : kind.Spells entries e) :
    kind.Spells entries' e := by
  -- Every key of a kind holds the same value, or one that is read alike in its position.
  cases hspells with
  | literal htext => exact .literal (htext.of_get?_eq (h.get?_eq rfl))
  | ident hname => exact .ident (h.readsIdentifier rfl hname)
  | binary hleft hoperator hright =>
    exact .binary (h.readsExpr rfl hleft)
      (hoperator.of_get?_eq (h.get?_eq rfl))
      (h.readsExpr rfl hright)
  | assign hfield hvalue =>
    exact .assign (h.readsIdentifier rfl hfield)
      (h.readsExpr rfl hvalue)
  | references htable hcolumn honDelete honUpdate =>
    exact .references (h.readsIdentifier rfl htable)
      ((textOrEmpty_eq_of_get?_eq (h.get?_eq rfl)).symm.trans hcolumn)
      ((textOrEmpty_eq_of_get?_eq (h.get?_eq rfl)).symm.trans honDelete)
      ((textOrEmpty_eq_of_get?_eq (h.get?_eq rfl)).symm.trans honUpdate)
  | column hdefinition => exact .column (hdefinition.of_sameParts h)
  | tableBody hfields =>
    exact .tableBody (h.readsList .column rfl (fun _ _ => Iff.rfl) hfields)
  | addColumn hfield hflag =>
    exact .addColumn (h.reads .column rfl (fun _ => Iff.rfl) hfield)
      ((flag_eq_of_get?_eq (h.get?_eq rfl)).symm.trans hflag)
  | dropColumn hname => exact .dropColumn (h.readsIdentifier rfl hname)
  | addConstraint hname hbody =>
    exact .addConstraint (h.readsIdentifier rfl hname)
      (h.readsExpr rfl hbody)
  | renameTo hname => exact .renameTo (h.readsIdentifier rfl hname)

end Expressions

/-! ## Statements -/

/-- The keys of a statement of a kind under which other things are read, with their positions. -/
def StatementKind.parts (kind : StatementKind) : List (String × Position) :=
  ("kind", .keyword) ::
    match kind with
    | alter => [("target", .keyword), ("name", .identifier), ("alter", .expression)]
    | create => [("target", .keyword), ("name", .identifier), ("create", .expression)]
    | drop => [("target", .keyword), ("name", .identifier)]
    | insert => [("values", .row), ("on_conflict", .conflict), ("table", .table)]
    | update => [("table", .table), ("set", .list .expression), ("where", .expression)]
    | select => [("columns", .list .expression), ("from", .table), ("where", .expression)]
    | withSelect => [("with", .select), ("select", .select)]

/-- The keys of a conflict clause, with their positions. -/
def Document.conflictParts : List (String × Position) :=
  [("cause", .expression), ("set", .list .expression)]

section Statements

variable {entries entries' : Entries}

theorem Document.SameParts.readsExprs {parts : List (String × Position)} {key : String}
    (h : SameParts parts entries entries') (hkey : parts.lookup key = some (.list .expression))
    {es : List Expr} (hreads : Reads entries key Expr.listOfValue es) :
    Reads entries' key Expr.listOfValue es :=
  h.reads (.list .expression) hkey (fun _ => Expr.listOfValue_eq_ok_iff.symm) hreads

/-- The two steps in which an insert reads its values belong together: only what comes out of both
is the same. -/
theorem Document.SameParts.readsRow {parts : List (String × Position)} {key : String}
    (h : SameParts parts entries entries') (hkey : parts.lookup key = some .row)
    {pairs : Entries} {row : List (String × Expr)} (hpairs : Reads entries key pairsOfValue pairs)
    (hrow : List.Forall₂ SpellsCell pairs row) :
    ∃ pairs', Reads entries' key pairsOfValue pairs' ∧ List.Forall₂ SpellsCell pairs' row := by
  obtain ⟨value, hget, hnull, hvalue⟩ := hpairs
  -- The row may be written in another way, but it has the same cells.
  obtain ⟨value', hget', hnull', pairs', hvalue', hrow'⟩ :=
    h.exists_readAs .row hkey hget hnull
      ⟨pairs, hvalue, rowOfPairs_eq_ok_iff.mpr hrow⟩
  exact ⟨pairs', ⟨value', hget', hnull', hvalue'⟩, rowOfPairs_eq_ok_iff.mp hrow'⟩

theorem Select.Spelled.of_sameParts {query : Select}
    (h : SameParts StatementKind.select.parts entries entries') (hspelled : query.Spelled entries) :
    query.Spelled entries' where
  columns := h.readsExprs rfl hspelled.columns
  source := h.readsTable rfl hspelled.source
  condition := h.readsOptional .expression rfl (fun _ _ => Iff.rfl) hspelled.condition

theorem StatementKind.Spells.of_sameParts {kind : StatementKind} {s : Statement}
    (h : SameParts kind.parts entries entries') (hspells : kind.Spells entries s) :
    kind.Spells entries' s := by
  cases hspells with
  | alter htarget hname haction =>
    exact .alter (h.readsTarget rfl htarget) (h.readsIdentifier rfl hname)
      (h.readsExpr rfl haction)
  | create htarget hname hbody hflag =>
    exact .create (h.readsTarget rfl htarget) (h.readsIdentifier rfl hname)
      (h.readsOptional .expression rfl (fun _ _ => Iff.rfl) hbody)
      ((flag_eq_of_get?_eq (h.get?_eq rfl)).symm.trans hflag)
  | drop htarget hname =>
    exact .drop (h.readsTarget rfl htarget) (h.readsIdentifier rfl hname)
  | insert hpairs hrow hconflict htable =>
    obtain ⟨pairs', hpairs', hrow'⟩ := h.readsRow rfl hpairs hrow
    exact .insert hpairs' hrow' (h.readsOptional .conflict rfl (fun _ _ => Iff.rfl) hconflict)
      (h.readsTable rfl htable)
  | update htable hassignments hcondition =>
    exact .update (h.readsTable rfl htable) (h.readsExprs rfl hassignments)
      (h.readsOptional .expression rfl (fun _ _ => Iff.rfl) hcondition)
  | select hquery => exact .select (hquery.of_sameParts h)
  | withSelect hname hinner houter =>
    exact .withSelect (hname.of_get?_eq (h.get?_eq rfl))
      (h.reads .select rfl (fun _ => Iff.rfl) hinner)
      (h.reads .select rfl (fun _ => Iff.rfl) houter)

end Statements

end SchemaMigration
