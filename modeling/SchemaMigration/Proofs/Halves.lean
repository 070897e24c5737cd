import SchemaMigration.Proofs.Stages

/-!
# Halves of surrogate pairs

A document can name half of a surrogate pair, and no text with a half in it can be encoded. What is
made of a document is a text of characters, where a half is no longer told from the character that
is shown for it; so a text that is written out is made twice, once with the halves marked.

* `Text.tellApart_shownText`: both forms of a text together tell all of its code points, whatever
  they are.
* `Text.encode_shownText_eq_ok_iff`: a text is encoded exactly if no half stands in it.
* `Value.marked_of_isWhole`: a value without halves is the same when they are marked, and so is the
  batch of a document that is one (`Batch.loadMarked?_of_isWhole`).
-/

namespace SchemaMigration

/-! ## Code points -/

namespace Text

namespace CodePoint

/-- A code point as it is read: a half has the code of one, and it is shown as the replacement
character. -/
inductive IsRead : CodePoint → Prop where
  | char (c : Char) : IsRead (.char c)
  | half {code : Nat} (h : 0xd800 ≤ code ∧ code < 0xe000) : IsRead (.half code '\ufffd')

theorem isRead_ofCode (code : Nat) : (ofCode code).IsRead := by
  unfold ofCode
  split
  · next h => exact .half h
  · exact .char _

variable {code : Nat}

theorem toNat_markOf (h : 0xd800 ≤ code ∧ code < 0xe000) :
    (markOf code).toNat = code + (0xf0000 - 0xd800) := by
  have hvalid : (code + (0xf0000 - 0xd800)).isValidChar := .inr (by omega)
  unfold markOf Char.ofNat
  rw [dif_pos hvalid]
  rfl

theorem codeOfMark_markOf (h : 0xd800 ≤ code ∧ code < 0xe000) :
    codeOfMark (markOf code) = code := by
  have hmark := toNat_markOf h
  unfold codeOfMark
  omega

/-- No half is shown as its mark. -/
theorem replacement_ne_markOf (h : 0xd800 ≤ code ∧ code < 0xe000) : '\ufffd' ≠ markOf code := by
  intro heq
  have hcode := toNat_markOf h
  rw [← heq] at hcode
  have hreplacement : '\ufffd'.toNat = 0xfffd := rfl
  omega

end CodePoint

/-- The text as it is shown. -/
def shownText (text : List CodePoint) : String := String.ofList (text.map (·.shown))

/-- The text as it is shown with its halves marked. -/
def markedText (text : List CodePoint) : String := shownText (text.map (·.marked))

variable {text : List CodePoint}

/-- **The two forms of a text tell it.** -/
theorem tellApart_shownText (h : ∀ point ∈ text, point.IsRead) :
    tellApart (shownText text) (markedText text) = text := by
  rw [tellApart, markedText, shownText, shownText, String.toList_ofList, String.toList_ofList]
  induction text with
  | nil => rfl
  | cons point rest ih =>
    obtain ⟨hpoint, hrest⟩ := List.forall_mem_cons.mp h
    rw [List.map_cons, List.map_cons, List.map_cons, List.zipWith_cons_cons, ih hrest]
    congr 1
    cases hpoint with
    | char c => exact if_pos rfl
    | half hcode =>
      -- A half is never shown as its own mark.
      have hne := CodePoint.replacement_ne_markOf hcode
      rw [CodePoint.marked, CodePoint.shown, CodePoint.shown, if_neg hne,
        CodePoint.codeOfMark_markOf hcode]

/-- Only a text without halves has one form. -/
theorem markedText_eq_shownText_iff (h : ∀ point ∈ text, point.IsRead) :
    markedText text = shownText text ↔ ∀ point ∈ text, point.isHalf = false := by
  constructor
  · intro heq point hpoint
    -- The text is told from two equal forms, and there no half is found.
    have htold := tellApart_shownText h
    rw [heq, tellApart] at htold
    have hzip : List.zipWith (fun c mark =>
        if c = mark then CodePoint.char c else .half (CodePoint.codeOfMark mark) c)
        (shownText text).toList (shownText text).toList = (shownText text).toList.map .char := by
      rw [List.zipWith_self]
      simp
    rw [hzip] at htold
    rw [← htold, List.mem_map] at hpoint
    obtain ⟨c, -, rfl⟩ := hpoint
    rfl
  · intro hwhole
    have hmarked : text.map (·.marked) = text := by
      refine (List.map_congr_left fun point hpoint => ?_).trans (List.map_id text)
      cases point with
      -- A text without halves has no code point that is marked in another way.
      | char c => rfl
      | half code shown => cases hwhole _ hpoint
    rw [markedText, hmarked]

/-- A text is encoded exactly if no half stands in it. -/
theorem encode_shownText_eq_ok_iff (leave : String → String) (h : ∀ point ∈ text, point.IsRead) :
    (∃ output, encode leave (shownText text) (some (markedText text)) = .ok output) ↔
      ∀ point ∈ text, point.isHalf = false := by
  rw [← markedText_eq_shownText_iff h]
  constructor
  · rintro ⟨output, houtput⟩
    exact Option.some.inj (encode_eq_ok_iff.mp houtput).1
  · intro heq
    exact ⟨_, encode_of_eq_some (congrArg some heq)⟩

end Text

/-! ## Values -/

namespace Value

mutual

/-- No half stands in the texts of the value. -/
def IsWhole : Value → Prop
  | brokenText _ => False
  | list items => AllWhole items
  | mapping entries => EntriesWhole entries
  | set members => AllWhole members
  | pair first second => first.IsWhole ∧ second.IsWhole
  | looped _ ⟨collection⟩ => (collection ()).IsWhole
  | null => True
  | bool _ => True
  | int _ => True
  | float _ => True
  | text _ => True
  | bytes _ => True
  | date _ => True
  | moment _ => True
  | clock _ => True

/-- No half stands in the values. -/
def AllWhole : List Value → Prop
  | [] => True
  | first :: rest => first.IsWhole ∧ AllWhole rest

/-- No half stands in the keys and values of the entries. -/
def EntriesWhole : List (Value × Value) → Prop
  | [] => True
  | (key, value) :: rest => key.IsWhole ∧ value.IsWhole ∧ EntriesWhole rest

end

mutual

/-- A value without halves has nothing that could be marked. -/
theorem marked_of_isWhole : ∀ value : Value, value.IsWhole → value.marked = value
  | brokenText _, h => nomatch h
  | list items, h => by rw [marked, allMarked_of_allWhole items h]
  | mapping entries, h => by rw [marked, entriesMarked_of_entriesWhole entries h]
  | set members, h => by rw [marked, allMarked_of_allWhole members h]
  | pair first second, h => by
    rw [marked, marked_of_isWhole first h.1, marked_of_isWhole second h.2]
  | looped id ⟨collection⟩, h => by
    -- A looped collection is opened up by the unit alone.
    have hcollection : (fun _ => (collection ()).marked) = collection :=
      funext fun _ => marked_of_isWhole (collection ()) h
    rw [marked, hcollection]
  | null, _ => rfl
  | bool _, _ => rfl
  | int _, _ => rfl
  | float _, _ => rfl
  | text _, _ => rfl
  | bytes _, _ => rfl
  | date _, _ => rfl
  | moment _, _ => rfl
  | clock _, _ => rfl

theorem allMarked_of_allWhole : ∀ values : List Value, AllWhole values → allMarked values = values
  | [], _ => rfl
  | first :: rest, h => by
    rw [allMarked, marked_of_isWhole first h.1, allMarked_of_allWhole rest h.2]

theorem entriesMarked_of_entriesWhole :
    ∀ entries : List (Value × Value), EntriesWhole entries → entriesMarked entries = entries
  | [], _ => rfl
  | (key, value) :: rest, h => by
    rw [entriesMarked, marked_of_isWhole key h.1, marked_of_isWhole value h.2.1,
      entriesMarked_of_entriesWhole rest h.2.2]

end

end Value

/-- The batch of a document without halves is the same when they are marked. -/
theorem Batch.loadMarked?_of_isWhole {tree : FileTree} {path : FilePath} {batch : Batch}
    (hload : (load tree path).result = .ok batch)
    (hwhole : ∀ value, Document.readFile tree path = .ok value → value.IsWhole) :
    loadMarked? tree path = some batch := by
  obtain ⟨value, hfile, hbatch⟩ := load_eq_ok_iff.mp hload
  unfold loadMarked?
  rw [hfile]
  dsimp only
  -- The value is the same when its halves are marked, and so is the batch of it.
  rw [value.marked_of_isWhole (hwhole value hfile), hbatch]
  rfl

/-- What is made of such a batch is the same when halves are marked. -/
theorem CommandLine.Surroundings.markedText?_of_isWhole {s : Surroundings} {file : FilePath}
    {batch : Batch} {ε : Type} {make : Batch → Except ε String} {text : String}
    (hload : (Batch.load s.tree file).result = .ok batch)
    (hwhole : ∀ value, Document.readFile s.tree file = .ok value → value.IsWhole)
    (htext : make batch = .ok text) : s.markedText? file make = some text := by
  rw [markedText?, Batch.loadMarked?_of_isWhole hload hwhole, Option.bind_some, htext]
  rfl

end SchemaMigration
