import Mathlib.Data.List.Forall2
import SchemaMigration.Document.Statement

/-!
# What it takes for a part of a document to be read

The readers of documents are sequences of steps, and each step can refuse the document. A step is
described here by what the document says when it is accepted, and by nothing about the place of a
fault or the size of a value:

* a key is read when it is there, its value is not null, and the value is read (`Document.Reads`);
* a key that may be absent is read when it is absent, or its value is (`Document.ReadsOptional`,
  `Document.ReadsList`);
* a list is read when each of its items is (`Document.readItems_eq_ok_iff`).

Callers that argue about accepted documents use these and do not unfold a step.
-/

namespace SchemaMigration

namespace Document

variable {α β : Type}

/-! ## Single steps -/

namespace Loading

/-- Two steps succeed when both do, one after the other. -/
theorem bind_eq_ok_iff {first : Loading α} {next : α → Loading β} {result : β} :
    first >>= next = .ok result ↔ ∃ a, first = .ok a ∧ next a = .ok result := by
  cases first with
  | error fault =>
    constructor
    · intro h
      cases h
    · rintro ⟨a, ha, _⟩
      cases ha
  | ok a =>
    constructor
    · intro h
      exact ⟨a, rfl, h⟩
    · rintro ⟨a', ha', hnext⟩
      cases ha'
      exact hnext

theorem pure_eq_ok_iff {a result : α} : (pure a : Loading α) = .ok result ↔ a = result := by
  show Except.ok a = Except.ok result ↔ a = result
  rw [Except.ok.injEq]

theorem refuse_eq_ok_iff {reason : Reason} {result : α} :
    (refuse reason : Loading α) = .ok result ↔ False := by
  constructor
  · intro h
    cases h
  · exact False.elim

/-- The place of a part says nothing about what is read from it. -/
theorem under_eq_ok_iff {step : Step} {loading : Loading α} {result : α} :
    loading.under step = .ok result ↔ loading = .ok result := by
  cases loading with
  | error fault =>
    constructor
    · intro h
      cases h
    · intro h
      cases h
  | ok a => rfl

end Loading

theorem eq_display_of_shown {value : Value} {text : String} (h : shown value = .ok text) :
    text = value.display := by
  unfold shown at h
  split at h
  · cases h
    rfl
  · cases h

/-! ## Keys of a mapping -/

variable {entries : Entries} {key : String}

/-- The key is there, its value is not null, and this is what the value is read as. -/
def Reads (entries : Entries) (key : String) (read : Value → Loading α) (result : α) : Prop :=
  ∃ value, entries.get? key = some value ∧ value.isNull = false ∧ read value = .ok result

theorem require_eq_ok_iff {found : { value : Value // sizeOf value < sizeOf entries }} :
    require entries key = .ok found ↔
      entries.get? key = some found.1 ∧ found.1.isNull = false := by
  -- A key counts as missing if it is not there or holds null.
  unfold require
  split
  · next hnone =>
    rw [Loading.refuse_eq_ok_iff, hnone]
    simp
  · next value hsome =>
    cases hnull : value.isNull with
    | true =>
      rw [if_pos rfl, Loading.refuse_eq_ok_iff, false_iff]
      rintro ⟨hget, hfound⟩
      rw [← Option.some.inj (hsome.symm.trans hget), hnull] at hfound
      cases hfound
    | false =>
      rw [if_neg Bool.false_ne_true, Except.ok.injEq]
      constructor
      · rintro rfl
        exact ⟨hsome, hnull⟩
      · rintro ⟨hget, _⟩
        exact Subtype.ext (Option.some.inj (hsome.symm.trans hget))

/-- Requiring a key and reading its value, as the two steps stand in a reader that has been taken
apart. -/
theorem exists_reads_iff {read : Value → Loading α} {rest : α → Prop} :
    (∃ value, ∃ _ : sizeOf value < sizeOf entries,
        (entries.get? key = some value ∧ value.isNull = false) ∧
          ∃ result, read value = .ok result ∧ rest result) ↔
      ∃ result, Reads entries key read result ∧ rest result := by
  -- The bound on the size follows from where the value was found.
  constructor
  · rintro ⟨value, _, ⟨hget, hnull⟩, result, hread, hrest⟩
    exact ⟨result, ⟨value, hget, hnull, hread⟩, hrest⟩
  · rintro ⟨result, ⟨value, hget, hnull, hread⟩, hrest⟩
    exact ⟨value, Entries.sizeOf_get?_lt hget, ⟨hget, hnull⟩, result, hread, hrest⟩

/-- A reader that requires its key and steps into the value. -/
theorem require_under_eq_ok_iff {read : Value → Loading α} {result : α} :
    (require entries key >>= fun found => (read found.1).under (.key key)) = .ok result ↔
      Reads entries key read result := by
  simp only [Loading.bind_eq_ok_iff, Loading.under_eq_ok_iff, Subtype.exists, require_eq_ok_iff]
  constructor
  · rintro ⟨value, _, ⟨hget, hnull⟩, hread⟩
    exact ⟨value, hget, hnull, hread⟩
  · rintro ⟨value, hget, hnull, hread⟩
    exact ⟨value, Entries.sizeOf_get?_lt hget, ⟨hget, hnull⟩, hread⟩

/-! ## Lists

The items of a list are read from the left and each is counted. What an item is read as does not
depend on its place, so the lists of expressions, columns and statements are all read alike. -/

/-- What the items of a list are read as, counted from the given index. -/
def readItems (step : Nat → Step) (read : Value → Loading α) : Nat → List Value → Loading (List α)
  | _, [] => .ok []
  | i, item :: rest => do
    let first ← (read item).under (step i)
    return first :: (← readItems step read (i + 1) rest)

/-- Each item is read as the result at its place. -/
abbrev ReadsItems (read : Value → Loading α) : List Value → List α → Prop :=
  List.Forall₂ fun item result => read item = .ok result

/-- A function that reads a list in these two steps is this one. -/
theorem eq_readItems {step : Nat → Step} {read : Value → Loading α}
    {run : Nat → List Value → Loading (List α)} (hnil : ∀ i, run i [] = .ok [])
    (hcons : ∀ i item rest, run i (item :: rest) = do
      let first ← (read item).under (step i)
      return first :: (← run (i + 1) rest)) (i : Nat) (items : List Value) :
    run i items = readItems step read i items := by
  induction items generalizing i with
  | nil => rw [hnil, readItems]
  | cons item rest ih =>
    -- The equation for a longer list is that of the reader of items.
    rw [hcons, readItems]
    simp only [ih]

theorem readItems_eq_ok_iff {step : Nat → Step} {read : Value → Loading α} {items : List Value}
    {results : List α} :
    ∀ {i : Nat}, readItems step read i items = .ok results ↔ ReadsItems read items results := by
  induction items generalizing results with
  | nil =>
    intro i
    rw [readItems, ReadsItems, List.forall₂_nil_left_iff, Except.ok.injEq, eq_comm]
  | cons item rest ih =>
    intro i
    rw [readItems, ReadsItems, List.forall₂_cons_left_iff, Loading.bind_eq_ok_iff]
    -- All that changes along the list is the index, which does not decide what is read.
    constructor
    · rintro ⟨first, hfirst, h⟩
      obtain ⟨others, hothers, hresults⟩ := Loading.bind_eq_ok_iff.mp h
      exact ⟨first, others, Loading.under_eq_ok_iff.mp hfirst, ih.mp hothers,
        (Loading.pure_eq_ok_iff.mp hresults).symm⟩
    · rintro ⟨first, others, hfirst, hothers, rfl⟩
      exact ⟨first, Loading.under_eq_ok_iff.mpr hfirst,
        Loading.bind_eq_ok_iff.mpr ⟨others, ih.mpr hothers, rfl⟩⟩

/-! ## Values that have to be mappings -/

/-- What a mapping is read as; any other value is refused for the given reason. -/
def ofMapping (reason : Reason) (read : Entries → Loading α) (value : Value) : Loading α :=
  match value.content with
  | .mapping entries => read entries
  | _ => Loading.refuse reason

theorem ofMapping_eq_ok_iff {reason : Reason} {read : Entries → Loading α} {value : Value}
    {result : α} :
    ofMapping reason read value = .ok result ↔
      ∃ entries, value.content = .mapping entries ∧ read entries = .ok result := by
  unfold ofMapping
  -- Anything but a mapping is refused.
  split
  · next entries hcontent =>
    constructor
    · intro h
      exact ⟨entries, hcontent, h⟩
    · rintro ⟨entries', hcontent', h⟩
      rwa [Value.mapping.inj (hcontent.symm.trans hcontent')]
  · next hother =>
    refine iff_of_false nofun ?_
    rintro ⟨entries, hcontent, _⟩
    exact hother entries hcontent

/-! ## Keys that may be absent -/

/-- The key is absent or null and there is no result, or its value is read as the result. -/
inductive ReadsOptional (entries : Entries) (key : String) (read : Value → Loading α) :
    Option α → Prop where
  | absent (h : ∀ value, entries.get? key = some value → value.isNull = true) :
      ReadsOptional entries key read none
  | present {result : α} (h : Reads entries key read result) :
      ReadsOptional entries key read (some result)

/-- The key is absent and the list is empty, or its value is a list and each item is read. -/
inductive ReadsList (entries : Entries) (key : String) (read : Value → Loading α) :
    List α → Prop where
  | absent (h : entries.get? key = none) : ReadsList entries key read []
  | present {value : Value} {items : List Value} {results : List α}
      (hget : entries.get? key = some value) (hcontent : value.content = .list items)
      (hitems : ReadsItems read items results) : ReadsList entries key read results

theorem optional_eq_none_iff :
    optional entries key = none ↔
      ∀ value, entries.get? key = some value → value.isNull = true := by
  unfold optional
  split
  -- What is not there or null is none.
  · next hnone =>
    rw [hnone]
    simp
  · next value hsome =>
    cases hnull : value.isNull with
    | true =>
      rw [if_pos rfl]
      refine iff_of_true rfl ?_
      intro found hfound
      rwa [← Option.some.inj (hsome.symm.trans hfound)]
    | false =>
      rw [if_neg Bool.false_ne_true]
      refine iff_of_false nofun ?_
      intro h
      rw [h value hsome] at hnull
      cases hnull

theorem optional_eq_some_iff {found : { value : Value // sizeOf value < sizeOf entries }} :
    optional entries key = some found ↔
      entries.get? key = some found.1 ∧ found.1.isNull = false := by
  rw [← require_eq_ok_iff]
  unfold optional require
  split
  · next hnone => exact iff_of_false nofun nofun
  · next value hsome =>
    cases value.isNull with
    | true => exact iff_of_false nofun nofun
    | false =>
      rw [if_neg Bool.false_ne_true, if_neg Bool.false_ne_true, Option.some.injEq,
        Except.ok.injEq]

/-- A reader that reads the value of its key if there is one. -/
theorem optional_bind_eq_ok_iff {read : Value → Loading α} {result : Option α} :
    (match optional entries key with
      | none => .ok none
      | some value => do return some (← (read value.1).under (.key key)) : Loading (Option α)) =
        .ok result ↔ ReadsOptional entries key read result := by
  split
  -- Nothing was found, so nothing is read.
  · next hnone =>
    rw [Except.ok.injEq]
    constructor
    · rintro rfl
      exact .absent (optional_eq_none_iff.mp hnone)
    · intro h
      cases h with
      | absent _ => rfl
      | present h =>
        obtain ⟨value, hget, hnull, _⟩ := h
        rw [optional_eq_none_iff.mp hnone value hget] at hnull
        cases hnull
  -- A value was found, and its reading decides.
  · next value hsome =>
    obtain ⟨hget, hnull⟩ := optional_eq_some_iff.mp hsome
    simp only [Loading.bind_eq_ok_iff, Loading.under_eq_ok_iff, Loading.pure_eq_ok_iff]
    constructor
    · rintro ⟨a, ha, rfl⟩
      exact .present ⟨value.1, hget, hnull, ha⟩
    · intro h
      cases h with
      | absent h =>
        rw [h value.1 hget] at hnull
        cases hnull
      | present h =>
        obtain ⟨value', hget', _, hread⟩ := h
        rw [← Option.some.inj (hget.symm.trans hget')] at hread
        exact ⟨_, hread, rfl⟩

theorem optionalList_eq_ok_none_iff :
    optionalList entries key = .ok none ↔ entries.get? key = none := by
  unfold optionalList
  split
  · next hnone => exact iff_of_true rfl hnone
  · next value hsome =>
    -- What is there is a list or refused, and so it is not none.
    refine iff_of_false ?_ fun hnone => Option.some_ne_none value (hsome.symm.trans hnone)
    split
    · exact nofun
    · exact nofun

theorem optionalList_eq_ok_some_iff
    {found : { items : List Value // sizeOf items < sizeOf entries }} :
    optionalList entries key = .ok (some found) ↔
      ∃ value, entries.get? key = some value ∧ value.content = .list found.1 := by
  unfold optionalList
  split
  · next hnone =>
    rw [hnone]
    exact iff_of_false nofun nofun
  · next value hsome =>
    split
    · next items hcontent =>
      rw [Except.ok.injEq, Option.some.injEq]
      constructor
      · rintro rfl
        exact ⟨value, hsome, hcontent⟩
      · rintro ⟨value', hget, hcontent'⟩
        obtain rfl := Option.some.inj (hsome.symm.trans hget)
        exact Subtype.ext (Value.list.inj (hcontent.symm.trans hcontent'))
    · next hcontent =>
      refine iff_of_false nofun ?_
      rintro ⟨value', hget, hcontent'⟩
      obtain rfl := Option.some.inj (hsome.symm.trans hget)
      exact hcontent _ hcontent'

/-- Looking for a list and reading its items, as the two steps stand in a reader that has been
taken apart. -/
theorem exists_readsList_iff {read : Value → Loading α} (rest : List α → Prop) :
    (entries.get? key = none ∧ rest [] ∨
        ∃ items, ∃ _ : sizeOf items < sizeOf entries,
          (∃ value, entries.get? key = some value ∧ value.content = .list items) ∧
            ∃ results, ReadsItems read items results ∧ rest results) ↔
      ∃ results, ReadsList entries key read results ∧ rest results := by
  constructor
  · rintro (⟨hget, hrest⟩ | ⟨items, _, ⟨value, hget, hcontent⟩, results, hitems, hrest⟩)
    · exact ⟨[], .absent hget, hrest⟩
    · exact ⟨results, .present hget hcontent hitems, hrest⟩
  · rintro ⟨results, hresults, hrest⟩
    cases hresults with
    | absent hget => exact .inl ⟨hget, hrest⟩
    | @present value items _ hget hcontent hitems =>
      have hsize := Nat.lt_trans (Value.sizeOf_lt_of_content_eq_list hcontent)
        (Entries.sizeOf_get?_lt hget)
      exact .inr ⟨items, hsize, ⟨value, hget, hcontent⟩, results, hitems, hrest⟩

end Document

end SchemaMigration
