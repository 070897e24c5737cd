import SchemaMigration.Proofs.Spelling

/-!
# How reading a document can fail

A document that is refused is reported with the place of the fault, but for one reason: the text of
an integer with too many digits cannot be made, and that fault has no place
(`Reason.isPlaced`). When every integer in a document can be written, reading it never ends that
way (`Batch.placed_ofValue`), whatever else stands in the document.

The readers only look at values inside the document, and the integers in those are integers of the
document (`Value.Writable.content`, `Entries.Writable.get?`). With that, each reader is a sequence
of steps that fail with placed faults (`Document.Loading.Placed`). The induction for expressions
runs over the size of the document: the entries of a mapping are read one kind at a time, and the
step assumes the result for all smaller values (`Expr.placed_ofEntries`).
-/

namespace SchemaMigration

open Document

/-! ## The integers in a value -/

namespace Value

mutual

/-- The integers in a value, keys of mappings included; looped collections are opened up. -/
def integers : Value → List Int
  | int n => [n]
  | list items => integersOfList items
  | mapping entries => integersOfEntries entries
  | set members => integersOfList members
  | pair first second => first.integers ++ second.integers
  | looped _ ⟨collection⟩ => (collection ()).integers
  | _ => []

/-- The integers in several values, in order. -/
def integersOfList : List Value → List Int
  | [] => []
  | first :: rest => first.integers ++ integersOfList rest

/-- The integers in the keys and values of several entries, in order. -/
def integersOfEntries : List (Value × Value) → List Int
  | [] => []
  | (key, value) :: rest => key.integers ++ value.integers ++ integersOfEntries rest

end

/-- Every integer in the value can be written in decimal. -/
def Writable (value : Value) : Prop := ∀ n ∈ value.integers, Digits.isWritable n = true

instance (value : Value) : Decidable value.Writable :=
  inferInstanceAs (Decidable (∀ n ∈ value.integers, Digits.isWritable n = true))

end Value

/-- Every integer in the keys and values of a mapping can be written. -/
def Entries.Writable (entries : Entries) : Prop :=
  ∀ entry ∈ entries, entry.1.Writable ∧ entry.2.Writable

theorem Value.forall_writable_iff {items : List Value} :
    (∀ item ∈ items, item.Writable) ↔
      ∀ n ∈ integersOfList items, Digits.isWritable n = true := by
  induction items with
  | nil => simp [integersOfList]
  | cons first rest ih =>
    rw [List.forall_mem_cons, integersOfList, List.forall_mem_append]
    exact and_congr Iff.rfl ih

theorem Entries.writable_iff {entries : Entries} :
    entries.Writable ↔ ∀ n ∈ Value.integersOfEntries entries, Digits.isWritable n = true := by
  induction entries with
  | nil => simp [Entries.Writable, Value.integersOfEntries]
  | cons entry rest ih =>
    rw [Entries.Writable, List.forall_mem_cons, Value.integersOfEntries, List.forall_mem_append,
      List.forall_mem_append]
    exact and_congr Iff.rfl ih

/-! ### Values inside a value -/

namespace Value.Writable

theorem content {value : Value} (h : value.Writable) : value.content.Writable := by
  fun_induction Value.content value with
  | case1 id collection ih => exact ih h
  | case2 value _ => exact h

theorem of_content_eq_list {value : Value} {items : List Value} (h : value.Writable)
    (hcontent : value.content = .list items) : ∀ item ∈ items, item.Writable := by
  have hlist := h.content
  rw [hcontent, Writable, integers] at hlist
  exact forall_writable_iff.mpr hlist

theorem of_content_eq_mapping {value : Value} {entries : Entries} (h : value.Writable)
    (hcontent : value.content = .mapping entries) : entries.Writable := by
  have hmapping := h.content
  rw [hcontent, Writable, integers] at hmapping
  exact Entries.writable_iff.mpr hmapping

end Value.Writable

/-- The value under a key is a value of the mapping. -/
theorem Entries.Writable.get? {entries : Entries} (h : entries.Writable) {key : String}
    {value : Value} (hget : entries.get? key = some value) : value.Writable := by
  induction entries with
  | nil => cases hget
  | cons entry rest ih =>
    obtain ⟨hfirst, hrest⟩ := List.forall_mem_cons.mp h
    rw [Entries.get?] at hget
    split at hget
    · cases hget
      exact hfirst.2
    · exact ih hrest hget

/-! ### Showing a value -/

namespace Value

mutual

/-- Inside whichever loops it stands, a value can be shown when all its integers can be written. -/
theorem Writable.isShowableWithin :
    ∀ {value : Value}, value.Writable → ∀ outer, value.isShowableWithin outer = true
  | .int n, h, outer => by
    rw [Value.isShowableWithin]
    exact h n List.mem_cons_self
  | .list items, h, outer => by
    rw [Value.isShowableWithin]
    exact allShowable_of_writable (forall_writable_iff.mpr h) outer
  | .mapping entries, h, outer => by
    rw [Value.isShowableWithin]
    exact entriesShowable_of_writable (Entries.writable_iff.mpr h) outer
  | .set members, h, outer => by
    rw [Value.isShowableWithin]
    exact allShowable_of_writable (forall_writable_iff.mpr h) outer
  | .pair first second, h, outer => by
    rw [Writable, integers, List.forall_mem_append] at h
    have hfirst : first.Writable := h.1
    have hsecond : second.Writable := h.2
    rw [Value.isShowableWithin, hfirst.isShowableWithin outer, hsecond.isShowableWithin outer,
      Bool.and_self]
  | .looped id ⟨collection⟩, h, outer => by
    -- Whether the collection is met again inside itself or not, its content can be shown.
    have hcollection : (collection ()).Writable := h
    rw [Value.isShowableWithin, hcollection.isShowableWithin (id :: outer), Bool.or_true]
  | .null, _, _ => rfl
  | .bool _, _, _ => rfl
  | .float _, _, _ => rfl
  | .text _, _, _ => rfl
  | .brokenText _, _, _ => rfl
  | .bytes _, _, _ => rfl
  | .date _, _, _ => rfl
  | .moment _, _, _ => rfl
  | .clock _, _, _ => rfl

theorem allShowable_of_writable :
    ∀ {items : List Value}, (∀ item ∈ items, item.Writable) →
      ∀ outer, allShowable outer items = true
  | [], _, _ => rfl
  | first :: rest, h, outer => by
    obtain ⟨hfirst, hrest⟩ := List.forall_mem_cons.mp h
    rw [allShowable, hfirst.isShowableWithin outer, allShowable_of_writable hrest outer,
      Bool.and_self]

theorem entriesShowable_of_writable :
    ∀ {entries : Entries}, entries.Writable → ∀ outer, entriesShowable outer entries = true
  | [], _, _ => rfl
  | (key, value) :: rest, h, outer => by
    obtain ⟨⟨hkey, hvalue⟩, hrest⟩ := List.forall_mem_cons.mp h
    rw [entriesShowable, hkey.isShowableWithin outer, hvalue.isShowableWithin outer,
      entriesShowable_of_writable hrest outer, Bool.and_self, Bool.and_self]

end

theorem Writable.isShowable {value : Value} (h : value.Writable) : value.isShowable = true :=
  h.isShowableWithin []

end Value

/-! ## Steps with placed faults -/

namespace Document

variable {α β : Type}

/-- Every fault with which the reading can end is reported together with its place. -/
def Loading.Placed (loading : Loading α) : Prop :=
  ∀ fault, loading = .error fault → fault.reason.isPlaced = true

namespace Loading.Placed

theorem ok (a : α) : Placed (.ok a) := nofun

theorem pure (a : α) : Placed (Pure.pure a) := nofun

theorem refuse {reason : Reason} (h : reason.isPlaced = true) :
    Placed (Loading.refuse reason : Loading α) := by
  rintro fault ⟨⟩
  exact h

/-- A sequence of steps ends with a fault of its first step or of what follows. -/
theorem bind {first : Loading α} {next : α → Loading β} (hfirst : first.Placed)
    (hnext : ∀ a, first = .ok a → (next a).Placed) : (first >>= next).Placed := by
  intro fault h
  cases hresult : first with
  | error cause =>
    rw [hresult] at h
    cases h
    exact hfirst _ hresult
  | ok a =>
    rw [hresult] at h
    exact hnext a hresult fault h

/-- A step in front of the path does not change the reason. -/
theorem under {loading : Loading α} (h : loading.Placed) (step : Step) :
    (loading.under step).Placed := by
  cases loading with
  | ok a => exact ok a
  | error cause =>
    rintro fault ⟨⟩
    exact h cause rfl

end Loading.Placed

theorem placed_shown {value : Value} (h : value.Writable) : (shown value).Placed := by
  rw [shown, if_pos h.isShowable]
  exact .ok _

/-! ### Lists and mappings -/

/-- A list is read with placed faults when each of its items is. -/
theorem placed_readItems {step : Nat → Step} {read : Value → Loading α} {items : List Value}
    (h : ∀ item ∈ items, (read item).Placed) : ∀ i, (readItems step read i items).Placed := by
  induction items with
  | nil => exact fun _ => .ok []
  | cons item rest ih =>
    intro i
    obtain ⟨hitem, hrest⟩ := List.forall_mem_cons.mp h
    refine .bind (hitem.under (step i)) fun first _ => ?_
    exact .bind (ih hrest (i + 1)) fun others _ => .pure _

theorem placed_ofMapping {reason : Reason} (hreason : reason.isPlaced = true)
    {read : Entries → Loading α} {value : Value} (h : value.Writable)
    (hread : ∀ entries : Entries, sizeOf entries < sizeOf value → entries.Writable →
      (read entries).Placed) : (ofMapping reason read value).Placed := by
  unfold ofMapping
  split
  · next entries hcontent =>
    have hsize := Value.sizeOf_lt_of_content_eq_mapping hcontent
    exact hread entries hsize (h.of_content_eq_mapping hcontent)
  · exact .refuse hreason

/-! ### Keys of a mapping -/

theorem placed_require (entries : Entries) (key : String) : (require entries key).Placed := by
  unfold require
  split
  · exact .refuse rfl
  · split
    · exact .refuse rfl
    · exact .ok _

theorem placed_optionalList (entries : Entries) (key : String) :
    (optionalList entries key).Placed := by
  unfold optionalList
  split
  · exact .ok none
  · split
    · exact .ok _
    · exact .under (.refuse rfl) _

/-- A value that is no flag is reported with its place, even if its text cannot be made. -/
theorem placed_flag (entries : Entries) (key : String) : (flag entries key).Placed := by
  unfold flag
  split
  · exact .ok false
  · split
    · exact .ok _
    · exact .under (.refuse rfl) _

variable {entries : Entries} (h : entries.Writable) (key : String)

include h

/-- Requiring a key and going on with its value. -/
theorem placed_require_bind {next : { value : Value // sizeOf value < sizeOf entries } → Loading β}
    (hnext : ∀ found, found.1.Writable → (next found).Placed) :
    (require entries key >>= next).Placed := by
  refine .bind (placed_require entries key) fun found hfound => ?_
  exact hnext found (h.get? (require_eq_ok_iff.mp hfound).1)

/-- Looking for a list and going on with its items. -/
theorem placed_optionalList_bind
    {next : Option { items : List Value // sizeOf items < sizeOf entries } → Loading β}
    (hnone : (next none).Placed)
    (hsome : ∀ found, (∀ item ∈ found.1, item.Writable) → (next (some found)).Placed) :
    (optionalList entries key >>= next).Placed := by
  refine .bind (placed_optionalList entries key) fun found hfound => ?_
  cases found with
  | none => exact hnone
  | some found =>
    obtain ⟨value, hget, hcontent⟩ := optionalList_eq_ok_some_iff.mp hfound
    exact hsome found ((h.get? hget).of_content_eq_list hcontent)

/-- A reader that reads the value of its key if there is one. -/
theorem placed_optional_bind {read : Value → Loading α}
    (hread : ∀ value : Value, value.Writable → (read value).Placed) :
    (match optional entries key with
      | none => .ok none
      | some value => do return some (← (read value.1).under (.key key)) :
        Loading (Option α)).Placed := by
  split
  · exact .ok none
  · next found hfound =>
    have hwritable := h.get? (optional_eq_some_iff.mp hfound).1
    exact .bind ((hread found.1 hwritable).under _) fun _ _ => .pure _

/-- A reader that requires its key and steps into the value. -/
theorem placed_require_under {read : Value → Loading α}
    (hread : ∀ value : Value, value.Writable → (read value).Placed) :
    (require entries key >>= fun found => (read found.1).under (.key key)).Placed :=
  placed_require_bind h key fun found hfound => (hread found.1 hfound).under _

theorem placed_textOrEmpty : (textOrEmpty entries key).Placed := by
  unfold textOrEmpty
  split
  · next value hget =>
    split
    · exact placed_shown (h.get? hget)
    · exact .ok ""
  · exact .ok ""

theorem placed_kindText : (kindText entries).Placed := by
  unfold kindText
  refine placed_require_bind h "kind" fun kind hkind => ?_
  exact .bind (placed_shown hkind) fun _ _ => .pure _

end Document

/-! ## Names -/

theorem Identifier.placed_ofValue {value : Value} (h : value.Writable) :
    (Identifier.ofValue value).Placed := by
  unfold Identifier.ofValue
  split
  · exact .ok _
  · exact .ok _
  · next entries hcontent =>
    have hentries := h.of_content_eq_mapping hcontent
    refine placed_require_bind hentries "name" fun name hname => ?_
    refine .bind (placed_shown hname) fun text _ => ?_
    split
    · exact .pure _
    · next container hget =>
      split
      · exact .bind (placed_shown (hentries.get? hget)) fun _ _ => .pure _
      · exact .pure _
  · exact .refuse rfl

theorem Target.placed_ofValue {value : Value} (h : value.Writable) :
    (Target.ofValue value).Placed := by
  unfold Target.ofValue
  refine .bind (placed_shown h) fun text _ => ?_
  split
  · exact .pure _
  · exact .refuse rfl

theorem TableRef.placed_ofValue {value : Value} (h : value.Writable) :
    (TableRef.ofValue value).Placed := by
  have hname : (Identifier.ofValue value >>= fun table =>
      (pure ⟨table, ""⟩ : Loading TableRef)).Placed :=
    .bind (Identifier.placed_ofValue h) fun _ _ => .pure _
  unfold TableRef.ofValue
  split
  · next entries hcontent =>
    have hentries := h.of_content_eq_mapping hcontent
    split
    · next table hget =>
      refine .bind ((Identifier.placed_ofValue (hentries.get? hget)).under _) fun table _ => ?_
      exact .bind (placed_textOrEmpty hentries "alias") fun _ _ => .pure _
    · exact hname
  · exact hname

theorem Document.placed_identifierAt {entries : Entries} (h : entries.Writable) (key : String) :
    (identifierAt entries key).Placed :=
  placed_require_under h key fun _ => Identifier.placed_ofValue

/-! ## Expressions -/

/-- Values below a size that can be written are read as expressions with placed faults. -/
def PlacedBelow (size : Nat) : Prop :=
  ∀ value : Value, sizeOf value < size → value.Writable → (Expr.ofValue value).Placed

theorem PlacedBelow.mono {size smaller : Nat} (h : PlacedBelow size) (hle : smaller ≤ size) :
    PlacedBelow smaller :=
  fun value hvalue => h value (Nat.lt_of_lt_of_le hvalue hle)

/-- The items of a list are smaller than the list. -/
theorem PlacedBelow.ofItems {items : List Value} (ih : PlacedBelow (sizeOf items))
    (h : ∀ item ∈ items, item.Writable) (i : Nat) : (Expr.ofItems i items).Placed := by
  rw [Expr.ofItems_eq_readItems]
  refine placed_readItems (fun item hitem => ?_) i
  exact ih item (List.sizeOf_lt_of_mem hitem) (h item hitem)

theorem Column.placed_ofEntries {entries : Entries} (h : entries.Writable)
    (ih : PlacedBelow (sizeOf entries)) : (Column.ofEntries entries).Placed := by
  rw [Column.ofEntries]
  refine .bind (placed_identifierAt h "name") fun name _ => ?_
  refine .bind (placed_identifierAt h "type") fun dataType _ => ?_
  refine placed_optionalList_bind h "constraints" (.pure _) fun items hitems => ?_
  have hconstraints := (ih.mono (Nat.le_of_lt items.2)).ofItems hitems 0
  exact .bind (hconstraints.under _) fun constraints _ => .pure _

theorem Column.placed_ofValue {value : Value} (h : value.Writable)
    (ih : PlacedBelow (sizeOf value)) : (Column.ofValue value).Placed := by
  rw [Column.ofValue_eq_ofMapping]
  refine placed_ofMapping rfl h fun entries hsize hentries => ?_
  exact Column.placed_ofEntries hentries (ih.mono (Nat.le_of_lt hsize))

theorem Column.placed_ofItems {items : List Value} (ih : PlacedBelow (sizeOf items))
    (h : ∀ item ∈ items, item.Writable) (i : Nat) : (Column.ofItems i items).Placed := by
  rw [Column.ofItems_eq_readItems]
  refine placed_readItems (fun item hitem => ?_) i
  have hsize := List.sizeOf_lt_of_mem hitem
  exact Column.placed_ofValue (h item hitem) (ih.mono (Nat.le_of_lt hsize))

/-- **One step.** When the values under the keys of a mapping are read with placed faults, so is the
mapping, whichever kind it names. -/
theorem Expr.placed_ofEntries {entries : Entries} (h : entries.Writable)
    (ih : PlacedBelow (sizeOf entries)) (kind : ExprKind) :
    (Expr.ofEntries entries kind).Placed := by
  have hpart : ∀ (found : { value : Value // sizeOf value < sizeOf entries }) (key : String),
      found.1.Writable → ((Expr.ofValue found.1).under (.key key)).Placed :=
    fun found key hfound => (ih found.1 found.2 hfound).under _
  -- Each kind is a sequence of steps, and each step is placed: names and texts by the lemmas above,
  -- parts by the hypothesis about smaller values.
  cases kind <;> rw [Expr.ofEntries]
  case literal =>
    refine placed_require_bind h "text" fun text htext => ?_
    exact .bind (placed_shown htext) fun _ _ => .pure _
  case ident =>
    refine placed_require_bind h "ident" fun name hname => ?_
    exact .bind (Identifier.placed_ofValue hname) fun _ _ => .pure _
  case binary =>
    refine placed_require_bind h "left" fun left hleft => ?_
    refine .bind (hpart left "left" hleft) fun _ _ => ?_
    refine placed_require_bind h "operator" fun operator hoperator => ?_
    refine .bind (placed_shown hoperator) fun _ _ => ?_
    refine placed_require_bind h "right" fun right hright => ?_
    exact .bind (hpart right "right" hright) fun _ _ => .pure _
  case assign =>
    refine .bind (placed_identifierAt h "field") fun _ _ => ?_
    refine placed_require_bind h "value" fun value hvalue => ?_
    exact .bind (hpart value "value" hvalue) fun _ _ => .pure _
  case references =>
    refine .bind (placed_identifierAt h "table") fun _ _ => ?_
    refine .bind (placed_textOrEmpty h "column") fun _ _ => ?_
    refine .bind (placed_textOrEmpty h "on_delete") fun _ _ => ?_
    exact .bind (placed_textOrEmpty h "on_update") fun _ _ => .pure _
  case column =>
    exact .bind (Column.placed_ofEntries h ih) fun _ _ => .pure _
  case tableBody =>
    refine placed_optionalList_bind h "fields" (.pure _) fun items hitems => ?_
    have hfields := Column.placed_ofItems (ih.mono (Nat.le_of_lt items.2)) hitems 0
    exact .bind (hfields.under _) fun _ _ => .pure _
  case addColumn =>
    refine placed_require_bind h "field" fun value hvalue => ?_
    have hfield := Column.placed_ofValue hvalue (ih.mono (Nat.le_of_lt value.2))
    refine .bind (hfield.under _) fun _ _ => ?_
    exact .bind (placed_flag entries "if_not_exists") fun _ _ => .pure _
  case dropColumn =>
    refine placed_require_bind h "name" fun name hname => ?_
    exact .bind (Identifier.placed_ofValue hname) fun _ _ => .pure _
  case addConstraint =>
    refine .bind (placed_identifierAt h "name") fun _ _ => ?_
    refine placed_require_bind h "body" fun body hbody => ?_
    exact .bind (hpart body "body" hbody) fun _ _ => .pure _
  case renameTo =>
    refine placed_require_bind h "new_name" fun name hname => ?_
    exact .bind (Identifier.placed_ofValue hname) fun _ _ => .pure _

/-- Every value that can be written is read as an expression with placed faults, by induction over
its size. -/
theorem Expr.placed_ofValue {value : Value} (h : value.Writable) : (Expr.ofValue value).Placed := by
  rw [Expr.ofValue]
  split
  · exact .ok _
  · exact .ok _
  · exact .ok _
  · next n hcontent =>
    have hint := h.content
    rw [hcontent] at hint
    exact .bind (placed_shown hint) fun _ _ => .pure _
  · exact .ok _
  · next entries hcontent =>
    have hentries := h.of_content_eq_mapping hcontent
    refine .bind (placed_kindText hentries) fun text _ => ?_
    split
    · next kind _ =>
      refine Expr.placed_ofEntries hentries ?_ kind
      intro smaller hsmaller hwritable
      -- The values under the keys are smaller than the entries, and those than the value itself.
      have hsize := Value.sizeOf_lt_of_content_eq_mapping hcontent
      exact Expr.placed_ofValue hwritable
    · exact .refuse rfl
  · exact .refuse rfl
termination_by sizeOf value

/-! ## Statements -/

theorem Expr.placed_ofItems {items : List Value} (h : ∀ item ∈ items, item.Writable) (i : Nat) :
    (Expr.ofItems i items).Placed := by
  rw [Expr.ofItems_eq_readItems]
  exact placed_readItems (fun item hitem => Expr.placed_ofValue (h item hitem)) i

theorem Expr.placed_listOfValue {value : Value} (h : value.Writable) :
    (Expr.listOfValue value).Placed := by
  unfold Expr.listOfValue
  split
  · next items hcontent => exact Expr.placed_ofItems (h.of_content_eq_list hcontent) 0
  · exact .refuse rfl

namespace Document

theorem placed_pairsOfItems {items : List Value} : ∀ i, (pairsOfItems i items).Placed := by
  induction items with
  | nil => exact fun _ => .ok []
  | cons item rest ih =>
    intro i
    rw [pairsOfItems]
    split
    · next entries _ =>
      refine .bind (.under (placed_require entries "field") _) fun field _ => ?_
      refine .bind (.under (placed_require entries "value") _) fun value _ => ?_
      exact .bind (ih (i + 1)) fun others _ => .pure _
    · exact .under (.refuse rfl) _

theorem placed_pairsOfValue (value : Value) : (pairsOfValue value).Placed := by
  unfold pairsOfValue
  split
  · exact .ok _
  · exact placed_pairsOfItems 0
  · exact .refuse rfl

theorem SpellsPair.writable {item : Value} {pair : Value × Value} (h : SpellsPair item pair)
    (hitem : item.Writable) : pair.1.Writable ∧ pair.2.Writable := by
  obtain ⟨entries, hcontent, ⟨field, hfield, _, hfst⟩, ⟨value, hvalue, _, hsnd⟩⟩ := h
  have hentries := hitem.of_content_eq_mapping hcontent
  cases hfst
  cases hsnd
  exact ⟨hentries.get? hfield, hentries.get? hvalue⟩

/-- The fields and values of an insert are values of the document. -/
theorem SpellsPairs.writable {value : Value} {pairs : Entries} (h : SpellsPairs value pairs)
    (hvalue : value.Writable) : pairs.Writable := by
  cases h with
  | mapping hcontent => exact hvalue.of_content_eq_mapping hcontent
  | list hcontent hpairs =>
    have hitems := hvalue.of_content_eq_list hcontent
    -- The pairs are those of the items, and every item can be written.
    clear hcontent
    induction hpairs with
    | nil => exact fun _ hentry => absurd hentry List.not_mem_nil
    | cons hpair _ ih =>
      obtain ⟨hitem, hrest⟩ := List.forall_mem_cons.mp hitems
      exact List.forall_mem_cons.mpr ⟨hpair.writable hitem, ih hrest⟩

theorem placed_rowOfPairs {pairs : Entries} (h : pairs.Writable) : (rowOfPairs pairs).Placed := by
  induction pairs with
  | nil => exact .ok []
  | cons entry rest ih =>
    obtain ⟨⟨hfield, hvalue⟩, hrest⟩ := List.forall_mem_cons.mp h
    rw [rowOfPairs]
    refine .bind (placed_shown hfield) fun name _ => ?_
    refine .bind (.under (Expr.placed_ofValue hvalue) _) fun expr _ => ?_
    exact .bind (ih hrest) fun others _ => .pure _

theorem placed_conflictOfValue {value : Value} (h : value.Writable) :
    (conflictOfValue value).Placed := by
  unfold conflictOfValue
  split
  · next entries hcontent =>
    -- The cause comes first, then the list of assignments.
    have hentries := h.of_content_eq_mapping hcontent
    refine placed_require_bind hentries "cause" fun cause hcause => ?_
    refine .bind (.under (Expr.placed_ofValue hcause) _) fun cause _ => ?_
    refine placed_optionalList_bind hentries "set" (.pure _) fun items hitems => ?_
    exact .bind (.under (Expr.placed_ofItems hitems 0) _) fun assignments _ => .pure _
  · exact .refuse rfl

end Document

theorem Select.placed_ofEntries {entries : Entries} (h : entries.Writable) :
    (Select.ofEntries entries).Placed := by
  refine .bind (placed_require_under h "columns" fun _ => Expr.placed_listOfValue)
    fun columns _ => ?_
  refine .bind (placed_require_under h "from" fun _ => TableRef.placed_ofValue) fun source _ => ?_
  exact .bind (placed_optional_bind h "where" fun _ => Expr.placed_ofValue)
    fun condition _ => .pure _

theorem Document.placed_selectAt {entries : Entries} (h : entries.Writable) (key : String) :
    (selectAt entries key).Placed := by
  rw [selectAt_eq_require_under]
  refine placed_require_under h key fun value hvalue => ?_
  exact placed_ofMapping rfl hvalue fun _ _ => Select.placed_ofEntries

theorem Statement.placed_ofEntries {entries : Entries} (h : entries.Writable)
    (kind : StatementKind) : (Statement.ofEntries entries kind).Placed := by
  have htarget : (targetAt entries).Placed :=
    placed_require_under h "target" fun _ => Target.placed_ofValue
  have htable : (tableAt entries "table").Placed :=
    placed_require_under h "table" fun _ => TableRef.placed_ofValue
  -- The steps of each kind in their order; the values under the keys can be written.
  cases kind <;> rw [Statement.ofEntries]
  case alter =>
    refine .bind htarget fun target _ => ?_
    refine .bind (placed_identifierAt h "name") fun name _ => ?_
    refine placed_require_bind h "alter" fun action haction => ?_
    exact .bind (.under (Expr.placed_ofValue haction) _) fun action _ => .pure _
  case create =>
    refine .bind htarget fun target _ => ?_
    refine .bind (placed_identifierAt h "name") fun name _ => ?_
    refine .bind (placed_optional_bind h "create" fun _ => Expr.placed_ofValue) fun body _ => ?_
    exact .bind (placed_flag entries "if_not_exists") fun ifNotExists _ => .pure _
  case drop =>
    refine .bind htarget fun target _ => ?_
    exact .bind (placed_identifierAt h "name") fun name _ => .pure _
  case insert =>
    refine placed_require_bind h "values" fun raw hraw => ?_
    refine .bind (.under (placed_pairsOfValue raw.1) _) fun pairs hpairs => ?_
    -- The pairs are values of the document, so their texts can be made as well.
    have hspells := pairsOfValue_eq_ok_iff.mp (Loading.under_eq_ok_iff.mp hpairs)
    refine .bind (.under (placed_rowOfPairs (hspells.writable hraw)) _) fun row _ => ?_
    refine .bind (placed_optional_bind h "on_conflict" fun _ => placed_conflictOfValue)
      fun onConflict _ => ?_
    exact .bind htable fun table _ => .pure _
  case update =>
    refine .bind htable fun table _ => ?_
    refine .bind (placed_require_under h "set" fun _ => Expr.placed_listOfValue)
      fun assignments _ => ?_
    exact .bind (placed_optional_bind h "where" fun _ => Expr.placed_ofValue)
      fun condition _ => .pure _
  case select =>
    exact .bind (Select.placed_ofEntries h) fun query _ => .pure _
  case withSelect =>
    refine placed_require_bind h "name" fun name hname => ?_
    refine .bind (placed_shown hname) fun name _ => ?_
    refine .bind (placed_selectAt h "with") fun inner _ => ?_
    exact .bind (placed_selectAt h "select") fun outer _ => .pure _

theorem Statement.placed_ofValue {value : Value} (h : value.Writable) :
    (Statement.ofValue value).Placed := by
  show (ofMapping .statementNotMapping _ value).Placed
  refine placed_ofMapping rfl h fun entries _ hentries => ?_
  refine .bind (placed_kindText hentries) fun text _ => ?_
  split
  · exact Statement.placed_ofEntries hentries _
  · exact .refuse rfl

/-! ## Batches -/

theorem Document.placed_batchItems (value : Value) : (batchItems value).Placed := by
  unfold batchItems
  -- A list is the batch itself, and a mapping has to hold one.
  split
  · exact .ok _
  · next entries _ =>
    refine .bind (placed_require entries "statements") fun found _ => ?_
    split
    · exact .pure _
    · exact .refuse rfl
  · exact .refuse rfl

/-- The items of a batch are values of the document. -/
theorem Document.writable_of_batchItems {value : Value} {items : List Value}
    (h : value.Writable) (hitems : batchItems value = .ok items) :
    ∀ item ∈ items, item.Writable := by
  unfold batchItems at hitems
  split at hitems
  · next items' hcontent =>
    cases hitems
    exact h.of_content_eq_list hcontent
  · next entries hcontent =>
    obtain ⟨found, hfound, hitems⟩ := Loading.bind_eq_ok_iff.mp hitems
    -- The list under the key is a value of the document.
    have hvalue := (h.of_content_eq_mapping hcontent).get? (require_eq_ok_iff.mp hfound).1
    split at hitems
    · next items' hlist =>
      cases hitems
      exact hvalue.of_content_eq_list hlist
    · cases hitems
  · cases hitems

/-- **Every refusal has a place.** A document whose integers can all be written is read as a batch,
or the fault is one that is reported together with its place. -/
theorem Batch.placed_ofValue {value : Value} (h : value.Writable) :
    (Batch.ofValue value).Placed := by
  refine .bind (placed_batchItems value) fun items hitems => ?_
  rw [statementsOfItems_eq_readItems]
  have hwritable := writable_of_batchItems h hitems
  exact placed_readItems (fun item hitem => Statement.placed_ofValue (hwritable item hitem)) 0

end SchemaMigration
