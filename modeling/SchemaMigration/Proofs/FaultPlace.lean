import SchemaMigration.Proofs.ReadAtPlace

/-!
# The place of a fault and the place of its document

Where a document stands decides neither whether it is read nor why it is refused. The place of a
fault is the place of the document with a text behind it that the document alone decides
(`Document.sameBehind_readAt`). A list of documents is refused as the first of them that is, at its
index (`Batch.readAt_eq_error_iff`), and otherwise all of them are read in their order
(`Batch.readAt_eq_ok_iff`).

One fault has no place: an integer with too many digits has no text.
-/

namespace SchemaMigration

namespace Document

variable {α : Type}

/-- The readings have the same result, or the same fault behind their places. -/
inductive SameBehind (location location' : String) : Reporting α → Reporting α → Prop where
  | result (result : α) : SameBehind location location' (.ok result) (.ok result)
  | fault (suffix : String) (reason : Reason) :
      SameBehind location location' (.error ⟨location ++ suffix, reason⟩)
        (.error ⟨location' ++ suffix, reason⟩)

theorem sameBehind_readAt (position : Position) (location location' : String) (value : Value) :
    SameBehind location location' (position.readAt location value)
      (position.readAt location' value) := by
  rw [Position.readAt_eq, Position.readAt_eq]
  cases position.read value with
  | ok result => exact .result result
  | error fault => exact .fault fault.path.render fault.reason

theorem isPlaced_of_reportedAt {location : String} {loading : Loading α} {report : Report}
    (hplaced : loading.Placed) (h : loading.reportedAt location = .error report) :
    report.reason.isPlaced = true := by
  cases loading with
  | ok result => cases h
  | error fault =>
    cases h
    exact hplaced fault rfl

/-! ## The first item that is refused -/

section Items

variable {step : Nat → Step} {read : Value → Loading α} {fault : Fault}

theorem readItems_cons_eq_error_iff {item : Value} {rest : List Value} {i : Nat} :
    readItems step read i (item :: rest) = .error fault ↔
      (read item).under (step i) = .error fault ∨
        (∃ result, read item = .ok result) ∧ readItems step read (i + 1) rest = .error fault := by
  rw [readItems]
  -- If the first item is refused, that is the fault of the list.
  cases read item with
  | error cause =>
    show Except.error _ = Except.error _ ↔ _
    simp [Loading.under]
  | ok result =>
    -- A fault behind the first item comes from the rest of the list.
    cases readItems step read (i + 1) rest with
    | ok others =>
      refine iff_of_false (fun h => by cases h) ?_
      rintro (h | ⟨_, h⟩)
      · cases h
      · cases h
    | error cause =>
      constructor
      · intro h
        exact .inr ⟨⟨result, rfl⟩, h⟩
      · rintro (h | ⟨_, h⟩)
        · cases h
        · exact h

/-- A list is refused as the first of its items that is. -/
theorem readItems_eq_error_iff {items : List Value} {i : Nat} :
    readItems step read i items = .error fault ↔
      ∃ before item after, items = before ++ item :: after ∧
        (∀ earlier ∈ before, ∃ result, read earlier = .ok result) ∧
          (read item).under (step (i + before.length)) = .error fault := by
  induction items generalizing i with
  | nil => simp [readItems]
  | cons first rest ih =>
    rw [readItems_cons_eq_error_iff, ih]
    constructor
    -- Going one item back makes the items in front one more and the first index one less.
    · rintro (hfirst | ⟨hfirst, before, item, after, rfl, hbefore, hitem⟩)
      · exact ⟨[], first, rest, rfl, List.forall_mem_nil _, hfirst⟩
      · refine ⟨first :: before, item, after, rfl, List.forall_mem_cons.mpr ⟨hfirst, hbefore⟩, ?_⟩
        rwa [List.length_cons, Nat.add_comm before.length 1, ← Nat.add_assoc]
    · rintro ⟨before, item, after, hsplit, hbefore, hitem⟩
      cases before with
      | nil =>
        cases hsplit
        exact .inl hitem
      | cons head before =>
        cases hsplit
        obtain ⟨hfirst, hbefore⟩ := List.forall_mem_cons.mp hbefore
        rw [List.length_cons, Nat.add_comm before.length 1, ← Nat.add_assoc] at hitem
        exact .inr ⟨hfirst, before, item, after, rfl, hbefore, hitem⟩

end Items

end Document

open Document

/-! ## Statements and batches -/

/-- The statement that a value at a place writes. -/
def Statement.readAt (location : String) (value : Value) : Reporting Statement :=
  Position.statement.readAt location value

/-- The batch that a value at a place writes. -/
def Batch.readAt (location : String) (value : Value) : Reporting Batch :=
  Position.batch.readAt location value

theorem Statement.readAt_eq (location : String) (value : Value) :
    readAt location value = (Statement.ofValue value).reportedAt location :=
  Position.readAt_eq .statement location value

theorem Batch.readAt_eq (location : String) (value : Value) :
    readAt location value = (Batch.ofValue value).reportedAt location :=
  Position.readAt_eq .batch location value

section Lists

variable {value : Value} {items : List Value} (hitems : value.content = .list items)

include hitems

theorem Batch.ofValue_eq_readItems :
    Batch.ofValue value = readItems .statement Statement.ofValue 0 items := by
  rw [Batch.ofValue, batchItems, hitems]
  exact statementsOfItems_eq_readItems 0 items

theorem Batch.readAt_eq_ok_iff {location : String} {batch : Batch} :
    Batch.readAt location value = .ok batch ↔
      List.Forall₂ (fun item statement => ∀ place, Statement.readAt place item = .ok statement)
        items batch := by
  simp only [Batch.readAt_eq, Statement.readAt_eq, Batch.ofValue_eq_readItems hitems,
    Loading.reportedAt_eq_ok_iff, readItems_eq_ok_iff, forall_const]

theorem Batch.readAt_eq_error_iff {location : String} {report : Report} :
    Batch.readAt location value = .error report ↔
      ∃ before item after, items = before ++ item :: after ∧
        (∀ earlier ∈ before, ∃ statement, ∀ place, Statement.readAt place earlier = .ok statement) ∧
          Statement.readAt (location ++ ":statements[" ++ toString before.length ++ "]") item =
            .error report := by
  -- An item is reported behind the location of the list and its index.
  have hread (item : Value) (i : Nat) :
      Statement.readAt (location ++ ":statements[" ++ toString i ++ "]") item =
        ((Statement.ofValue item).under (.statement i)).reportedAt location := by
    rw [Statement.readAt_eq, Loading.reportedAt_under, Step.render, String.append_assoc,
      String.append_assoc, String.append_assoc]
  have hearlier (item : Value) : (∃ statement, ∀ place,
      Statement.readAt place item = .ok statement) ↔
        ∃ statement, Statement.ofValue item = .ok statement := by
    simp only [Statement.readAt_eq, Loading.reportedAt_eq_ok_iff, forall_const]
  simp only [hread, hearlier, Loading.reportedAt_eq_error_iff]
  rw [Batch.readAt_eq, Batch.ofValue_eq_readItems hitems, Loading.reportedAt_eq_error_iff]
  simp only [readItems_eq_error_iff, Nat.zero_add]
  constructor
  · rintro ⟨fault, ⟨before, item, after, hsplit, hbefore, hitem⟩, hreport⟩
    exact ⟨before, item, after, hsplit, hbefore, fault, hitem, hreport⟩
  · rintro ⟨before, item, after, hsplit, hbefore, fault, hitem, hreport⟩
    exact ⟨fault, ⟨before, item, after, hsplit, hbefore, hitem⟩, hreport⟩

end Lists

/-- **Places are handed on.** Where a document stands is in front of the place of its fault and
decides nothing else, every fault has a place when the integers can be written, and a list is read
item by item up to the first that is refused. -/
theorem Batch.located (location location' : String) (document : Value) :
    (Statement.readAt location document = (Statement.ofValue document).reportedAt location ∧
      SameBehind location location' (Statement.readAt location document)
        (Statement.readAt location' document) ∧
      (document.Writable → ∀ report, Statement.readAt location document = .error report →
        report.reason.isPlaced = true)) ∧
    ∀ items, document.content = .list items →
      Batch.readAt location document = (Batch.ofValue document).reportedAt location ∧
      (∀ batch, Batch.readAt location document = .ok batch ↔
        List.Forall₂ (fun item statement => ∀ place, Statement.readAt place item = .ok statement)
          items batch) ∧
      ∀ report, Batch.readAt location document = .error report ↔
        ∃ before item after, items = before ++ item :: after ∧
          (∀ earlier ∈ before, ∃ statement, ∀ place,
            Statement.readAt place earlier = .ok statement) ∧
          Statement.readAt (location ++ ":statements[" ++ toString before.length ++ "]") item =
            .error report := by
  -- The document alone decides; the location only stands in front.
  have hsame := sameBehind_readAt .statement location location' document
  refine ⟨⟨Statement.readAt_eq location document, hsame, ?_⟩, ?_⟩
  · intro hwritable report h
    rw [Statement.readAt_eq] at h
    exact isPlaced_of_reportedAt (Statement.placed_ofValue hwritable) h
  · intro items hitems
    exact ⟨Batch.readAt_eq location document, fun _ => Batch.readAt_eq_ok_iff hitems,
      fun _ => Batch.readAt_eq_error_iff hitems⟩

/-- A statement that drops the table of the given name. -/
def dropTableDocument (name : Value) : Value :=
  .mapping [(.text "kind", .text "drop"), (.text "target", .text "table"), (.text "name", name)]

/-- The name of the second table is a number. -/
theorem Batch.located_secondName :
    SameBehind "a.yaml" "b.yaml" (Statement.readAt "a.yaml" (dropTableDocument (.int 5)))
        (Statement.readAt "b.yaml" (dropTableDocument (.int 5))) ∧
      (∀ report, Statement.readAt "a.yaml" (dropTableDocument (.int 5)) = .error report →
        report.reason.isPlaced = true) ∧
      Batch.readAt "a.yaml"
          (.list [dropTableDocument (.text "app.users"), dropTableDocument (.int 5)]) =
        .error ⟨"a.yaml:statements[1].name", .notAnIdentifier "int"⟩ := by
  have hfirst : Statement.ofValue (dropTableDocument (.text "app.users")) =
      .ok (.drop .table (.name "app.users")) := rfl
  have hsecond : Statement.ofValue (dropTableDocument (.int 5)) =
      .error ⟨[.key "name"], .notAnIdentifier "int"⟩ := rfl
  -- The theorem is used for the second statement alone and for the batch.
  have hstatement := (located "a.yaml" "b.yaml" (dropTableDocument (.int 5))).1
  have hbatch := (located "a.yaml" "b.yaml"
    (.list [dropTableDocument (.text "app.users"), dropTableDocument (.int 5)])).2 _ rfl
  refine ⟨hstatement.2.1, hstatement.2.2 (by decide +kernel), ?_⟩
  refine (hbatch.2.2 _).mpr ⟨[_], _, [], rfl, ?_, ?_⟩
  · simp [Statement.readAt_eq, hfirst]
  · rw [Statement.readAt_eq, hsecond]
    rfl

end SchemaMigration
