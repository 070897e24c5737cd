import SchemaMigration.Proofs.JsonRoundTrip

/-!
# Different documents are written differently

Reading a written document back needs its numbers to be short enough to be read
(`Json.read_render`). Telling two documents apart by their texts needs nothing of the kind: the text
of a document shows where it ends, whatever follows, so two texts that go on alike are texts of one
document (`Json.write_append_inj`). The first character tells of what kind the document is, a quoted
text ends at its quote, a number at the first character that is no digit, and behind an item there
is either a comma or the line of the closing bracket.
-/

namespace SchemaMigration

/-- The character that every document of this kind starts with; a number has none of its own. -/
def Outline.opening : Outline → Option Char
  | text _ => some '"'
  | number _ => none
  | list _ => some '['
  | record _ => some '\x7b'

namespace Json

variable {rest rest' : List Char}

/-! ## Texts and numbers -/

theorem quote_append (s : String) (rest : List Char) :
    quote s ++ rest = '"' :: (s.toList.flatMap escapeChar ++ '"' :: rest) := by
  simp [quote]

/-- A quoted text is read up to its closing quote, so it tells the text and what follows. -/
theorem quote_append_inj {s s' : String} (h : quote s ++ rest = quote s' ++ rest') :
    s = s' ∧ rest = rest' := by
  rw [quote_append, quote_append] at h
  have hread := congrArg string (List.cons.inj h).2
  rw [string_quote, string_quote] at hread
  obtain ⟨hcodes, hrest⟩ := Prod.mk.inj (Except.ok.inj hread)
  have htexts := congrArg Value.ofCodePoints hcodes
  rw [ofCodePoints_ofChars, ofCodePoints_ofChars] at htexts
  exact ⟨Value.text.inj htexts, hrest⟩

/-- The digits of a number end where something else follows. -/
theorem toDigits_append_inj {n n' : Nat} (hrest : EndsNumber rest) (hrest' : EndsNumber rest')
    (h : Nat.toDigits 10 n ++ rest = Nat.toDigits 10 n' ++ rest') : n = n' ∧ rest = rest' := by
  have hsplit := congrArg wholeDigits? h
  rw [wholeDigits?_toDigits n hrest, wholeDigits?_toDigits n' hrest'] at hsplit
  obtain ⟨hdigits, hbehind⟩ := Prod.mk.inj (Option.some.inj hsplit)
  have hnumbers := congrArg Digits.toNat hdigits
  rw [toNat_toDigits, toNat_toDigits] at hnumbers
  exact ⟨hnumbers, hbehind⟩

/-! ## Kinds of documents -/

theorem exists_write_eq_cons (level : Nat) (o : Outline) :
    ∃ c cs, write level o = c :: cs ∧ (if c.isDigit then none else some c) = o.opening := by
  cases o with
  | text s => exact ⟨'"', _, rfl, rfl⟩
  -- Every other outline is written with a character of its own in front.
  | number n =>
    obtain ⟨c, cs, hdigits, hdigit⟩ := exists_toDigits_eq_cons n
    exact ⟨c, cs, hdigits, if_pos hdigit⟩
  | list items =>
    cases items with
    | nil => exact ⟨'[', _, rfl, rfl⟩
    | cons first others => exact ⟨'[', _, rfl, rfl⟩
  | record fields =>
    cases fields with
    | nil => exact ⟨'\x7b', _, rfl, rfl⟩
    | cons field others => exact ⟨'\x7b', _, rfl, rfl⟩

theorem opening_eq_of_write_append_eq {level : Nat} {o o' : Outline}
    (h : write level o ++ rest = write level o' ++ rest') : o.opening = o'.opening := by
  obtain ⟨c, cs, hwrite, hopening⟩ := exists_write_eq_cons level o
  obtain ⟨c', cs', hwrite', hopening'⟩ := exists_write_eq_cons level o'
  rw [hwrite, hwrite'] at h
  rw [← hopening, ← hopening', (List.cons.inj h).1]

/-! ## Whole documents -/

theorem endsNumber_writeItems (level close : Nat) (items : List Outline) (rest : List Char) :
    EndsNumber (writeItems level items ++ (newline close ++ rest)) := by
  cases items with
  | nil => exact endsNumber_newline close rest
  | cons first others => exact endsNumber_comma _

theorem endsNumber_writeFields (level close : Nat) (fields : List (String × Outline))
    (rest : List Char) : EndsNumber (writeFields level fields ++ (newline close ++ rest)) := by
  cases fields with
  | nil => exact endsNumber_newline close rest
  | cons field others => exact endsNumber_comma _

/-- An empty list is closed at once, and any other goes on like further items. -/
theorem writeItems_eq_of_write_list_eq {level : Nat} {items items' : List Outline}
    (h : write level (.list items) ++ rest = write level (.list items') ++ rest') :
    writeItems (level + 1) items ++ (newline level ++ ']' :: rest) =
      writeItems (level + 1) items' ++ (newline level ++ ']' :: rest') := by
  -- An empty list is closed at once, and any other starts a new line.
  cases items with
  | nil =>
    cases items' with
    | nil => simpa [write] using h
    | cons first' others' => simp [write, newline] at h
  | cons first others =>
    cases items' with
    | nil => simp [write, newline] at h
    | cons first' others' => simpa [write, writeItems] using h

theorem writeFields_eq_of_write_record_eq {level : Nat} {fields fields' : List (String × Outline)}
    (h : write level (.record fields) ++ rest = write level (.record fields') ++ rest') :
    writeFields (level + 1) fields ++ (newline level ++ '\x7d' :: rest) =
      writeFields (level + 1) fields' ++ (newline level ++ '\x7d' :: rest') := by
  cases fields with
  | nil =>
    cases fields' with
    | nil => simpa [write] using h
    | cons field' others' => simp [write, newline] at h
  | cons field others =>
    cases fields' with
    | nil => simp [write, newline] at h
    | cons field' others' => simpa [write, writeFields] using h

mutual

/-- Induction over the first document; a text with the same first character is of the same kind. -/
theorem write_append_inj : ∀ (o o' : Outline) (level : Nat) (rest rest' : List Char),
    EndsNumber rest → EndsNumber rest' → write level o ++ rest = write level o' ++ rest' →
    o = o' ∧ rest = rest'
  | .text s, o', level, rest, rest', _, _, h => by
    -- What starts alike is of one kind.
    have hopening := opening_eq_of_write_append_eq h
    cases o' with
    | text s' =>
      rw [write, write] at h
      obtain ⟨hs, hrest⟩ := quote_append_inj h
      exact ⟨congrArg Outline.text hs, hrest⟩
    | number _ | list _ | record _ => cases hopening
  | .number n, o', level, rest, rest', hends, hends', h => by
    have hopening := opening_eq_of_write_append_eq h
    cases o' with
    | number n' =>
      rw [write, write] at h
      obtain ⟨hn, hrest⟩ := toDigits_append_inj hends hends' h
      exact ⟨congrArg Outline.number hn, hrest⟩
    | text _ | list _ | record _ => cases hopening
  | .list items, o', level, rest, rest', _, _, h => by
    have hopening := opening_eq_of_write_append_eq h
    cases o' with
    | list items' =>
      obtain ⟨hitems, hrest⟩ := writeItems_append_inj items items' (level + 1) level _ _
        (writeItems_eq_of_write_list_eq h)
      exact ⟨congrArg Outline.list hitems, (List.cons.inj hrest).2⟩
    | text _ | number _ | record _ => cases hopening
  | .record fields, o', level, rest, rest', _, _, h => by
    have hopening := opening_eq_of_write_append_eq h
    cases o' with
    | record fields' =>
      obtain ⟨hfields, hrest⟩ := writeFields_append_inj fields fields' (level + 1) level _ _
        (writeFields_eq_of_write_record_eq h)
      exact ⟨congrArg Outline.record hfields, (List.cons.inj hrest).2⟩
    | text _ | number _ | list _ => cases hopening

/-- Further items end where a line end stands in the place of a comma. -/
theorem writeItems_append_inj : ∀ (items items' : List Outline) (level close : Nat)
    (rest rest' : List Char),
    writeItems level items ++ (newline close ++ rest) =
      writeItems level items' ++ (newline close ++ rest') →
    items = items' ∧ rest = rest'
  | [], [], level, close, rest, rest', h => by
    simpa [writeItems] using h
  | [], first' :: others', level, close, rest, rest', h => by
    simp [writeItems, newline] at h
  -- In front of an item there is a comma, and in front of the bracket a line end.
  | first :: others, [], level, close, rest, rest', h => by
    simp [writeItems, newline] at h
  | first :: others, first' :: others', level, close, rest, rest', h => by
    -- The first items are told apart by what follows them, and then the others.
    simp only [writeItems, List.cons_append, List.append_assoc, List.cons.injEq,
      List.append_cancel_left_eq, true_and] at h
    obtain ⟨hfirst, hbehind⟩ := write_append_inj first first' level _ _
      (endsNumber_writeItems _ _ _ _) (endsNumber_writeItems _ _ _ _) h
    obtain ⟨hothers, hrest⟩ := writeItems_append_inj others others' level close _ _ hbehind
    exact ⟨by rw [hfirst, hothers], hrest⟩

theorem writeFields_append_inj : ∀ (fields fields' : List (String × Outline)) (level close : Nat)
    (rest rest' : List Char),
    writeFields level fields ++ (newline close ++ rest) =
      writeFields level fields' ++ (newline close ++ rest') →
    fields = fields' ∧ rest = rest'
  | [], [], level, close, rest, rest', h => by
    simpa [writeFields] using h
  | [], (name', value') :: others', level, close, rest, rest', h => by
    simp [writeFields, newline] at h
  | (name, value) :: others, [], level, close, rest, rest', h => by
    simp [writeFields, newline] at h
  | (name, value) :: others, (name', value') :: others', level, close, rest, rest', h => by
    -- A field is told by its name, its value and what follows.
    simp only [writeFields, List.cons_append, List.append_assoc, List.cons.injEq,
      List.append_cancel_left_eq, true_and] at h
    obtain ⟨hname, hvalue⟩ := quote_append_inj h
    simp only [List.cons.injEq, true_and] at hvalue
    obtain ⟨hvalue, hbehind⟩ := write_append_inj value value' level _ _
      (endsNumber_writeFields _ _ _ _) (endsNumber_writeFields _ _ _ _) hvalue
    obtain ⟨hothers, hrest⟩ := writeFields_append_inj others others' level close _ _ hbehind
    exact ⟨by rw [hname, hvalue, hothers], hrest⟩

end

/-- **A text is that of one document only.** -/
theorem render_injective : Function.Injective render := by
  intro o o' h
  have hnothing : EndsNumber [] := nofun
  have hwrite : write 0 o = write 0 o' := String.ofList_injective h
  exact (write_append_inj o o' 0 [] [] hnothing hnothing (by rw [hwrite])).1

end Json

end SchemaMigration
