import SchemaMigration.Json.Reader
import SchemaMigration.Json.Writer

/-!
# Reading JSON text that this library wrote

The reader gives back the document that was written (`Json.read_render`): every text, with whatever
characters in it, every number, and the items and fields in their order. Two things stand in its
way, and a document without them is readable (`Outline.IsReadable`): an integer with more digits
than are read, and a name that stands twice in one record, of which only one entry would be left.

A text is read character by character, each from its escaped form (`Json.stringBody_escapeChar`); a
number up to the first character that is none of its digits. Lists and records follow by induction
over the document. The reader counts down at every step, and the length of what is still to be read
is enough to count from.
-/

namespace SchemaMigration

namespace Json

open Text (CodePoint)

/-! ## Strings -/

/-- The forms in which a character can stand inside a string. -/
inductive EscapedAs (c : Char) : List Char → Prop where
  | letter {letter : Char} (hcode : letter ≠ 'u') (hprintable : 0x20 ≤ letter.toNat)
      (hshort : shortEscape? letter = some c) : EscapedAs c ['\\', letter]
  | code (hcontrol : c.toNat < 0x20) : EscapedAs c ('\\' :: 'u' :: Text.hex 4 c.toNat)
  | itself (hquote : c ≠ '"') (hbackslash : c ≠ '\\') (hprintable : ¬c.toNat < 0x20) :
      EscapedAs c [c]

theorem escapedAs_escapeChar (c : Char) : EscapedAs c (escapeChar c) := by
  unfold escapeChar
  -- The quote and the backslash share a branch, and so do their tests.
  by_cases hquote : c = '"'
  · subst hquote
    exact .letter (by decide) (by decide) rfl
  by_cases hbackslash : c = '\\'
  · subst hbackslash
    exact .letter (by decide) (by decide) rfl
  rw [if_neg (not_or.mpr ⟨hquote, hbackslash⟩)]
  split
  · next hc => subst hc; exact .letter (by decide) (by decide) rfl
  split
  · next hc => subst hc; exact .letter (by decide) (by decide) rfl
  split
  · next hc => subst hc; exact .letter (by decide) (by decide) rfl
  split
  · next hc => subst hc; exact .letter (by decide) (by decide) rfl
  split
  · next hc => subst hc; exact .letter (by decide) (by decide) rfl
  split
  · next hcontrol => exact .code hcontrol
  · next hprintable => exact .itself hquote hbackslash hprintable

/-- The codes of control characters have two zeros and two more digits. -/
theorem hex_of_control : ∀ n < 0x20,
    Text.hex 4 n = ['0', '0', Nat.digitChar (n / 16), Nat.digitChar (n % 16)] ∧
      hexCode? '0' '0' (Nat.digitChar (n / 16)) (Nat.digitChar (n % 16)) = some n := by
  decide

section Strings

variable {start rest : List Char}

/-- An escape by a code that is no half of a surrogate pair is read by itself, even if another
escape follows. -/
theorem stringBody_code {a b c d next : Char} {code : Nat} (hcode : hexCode? a b c d = some code)
    (hlow : code < 0xd800) :
    stringBody start ('\\' :: 'u' :: a :: b :: c :: d :: next :: rest) =
      consCode (.ofCode code) (stringBody start (next :: rest)) := by
  have hjoin : joinSurrogates? code = fun _ => none := by
    funext low
    rw [joinSurrogates?, if_neg]
    omega
  by_cases hpair : ∃ e f g h last after,
      next = '\\' ∧ rest = 'u' :: e :: f :: g :: h :: last :: after
  · -- Two escapes in a row could be the halves of a pair. These are not.
    obtain ⟨e, f, g, h, last, after, hnext, hrest⟩ := hpair
    subst hnext hrest
    rw [stringBody]
    simp only [hcode, hjoin, Option.bind_fun_none]
  · rw [stringBody]
    · rw [hcode]
    · intro e f g h last after hnext hrest
      exact hpair ⟨e, f, g, h, last, after, hnext, hrest⟩

/-- A character is read from its escaped form, and then what follows it. -/
theorem stringBody_escapeChar (c : Char) (h : rest ≠ []) :
    stringBody start (escapeChar c ++ rest) = consCode (.char c) (stringBody start rest) := by
  have hescaped := escapedAs_escapeChar c
  generalize escapeChar c = written at hescaped
  cases hescaped with
  -- Three forms are left: a letter behind a backslash, a code, and the character itself.
  | letter hcode _ hshort => simp [stringBody, hcode, hshort]
  | code hcontrol =>
    obtain ⟨hhex, hcode⟩ := hex_of_control c.toNat hcontrol
    -- Something has to follow a code, since the reader looks one character further.
    obtain ⟨next, after, rfl⟩ := List.exists_cons_of_ne_nil h
    have hlow : c.toNat < 0xd800 := by omega
    have hchar : CodePoint.ofCode c.toNat = .char c := by
      rw [CodePoint.ofCode, if_neg (by omega), Char.ofNat_toNat]
    rw [hhex, ← hchar]
    exact stringBody_code hcode hlow
  | itself hquote hbackslash hprintable => simp [stringBody, hbackslash, hprintable]

theorem stringBody_escaped (cs : List Char) :
    stringBody start (cs.flatMap escapeChar ++ '"' :: rest) = .ok (Text.ofChars cs, rest) := by
  induction cs with
  | nil => rw [List.flatMap_nil, List.nil_append, stringBody, Text.ofChars, List.map_nil]
  | cons c cs ih =>
    rw [List.flatMap_cons, List.append_assoc, stringBody_escapeChar c (by simp), ih]
    rfl

end Strings

/-! ## Numbers -/

/-- Nothing follows, or something that cannot belong to a number. -/
def EndsNumber (rest : List Char) : Prop :=
  ∀ c, rest.head? = some c → c = ',' ∨ c = '\n'

theorem toNat_toDigits (n : Nat) : Digits.toNat (Nat.toDigits 10 n) = n := by
  have hfold : Digits.toNat (Nat.toDigits 10 n) = Nat.ofDigitChars 10 (Nat.toDigits 10 n) 0 := by
    simp only [Digits.toNat, Nat.ofDigitChars, Nat.mul_comm]
  rw [hfold, Nat.ofDigitChars_toDigits (by decide) (by decide)]

theorem digitChar_of_pos : ∀ n < 10, n ≠ 0 → (Nat.digitChar n).isDigit = true ∧
    Nat.digitChar n ≠ '0' := by
  decide

theorem exists_toDigits_eq_cons (n : Nat) :
    ∃ c cs, Nat.toDigits 10 n = c :: cs ∧ c.isDigit = true := by
  obtain ⟨c, cs, hdigits⟩ := List.exists_cons_of_ne_nil (Nat.toDigits_ne_nil (n := n) (b := 10))
  have hmem : c ∈ Nat.toDigits 10 n := by
    rw [hdigits]
    exact List.mem_cons_self
  exact ⟨c, cs, hdigits, Nat.isDigit_of_mem_toDigits (by decide) (by decide) hmem⟩

/-- Only the number zero is written with a zero in front. -/
theorem head_toDigits {n : Nat} (hn : n ≠ 0) :
    ∃ c cs, Nat.toDigits 10 n = c :: cs ∧ c.isDigit = true ∧ c ≠ '0' := by
  -- The front digit of a number is that of its tenth, so the induction goes down by division.
  induction n using Nat.strongRecOn with
  | ind n ih =>
    by_cases hlt : n < 10
    · exact ⟨n.digitChar, [], Nat.toDigits_of_lt_base hlt, digitChar_of_pos n hlt hn⟩
    · obtain ⟨c, cs, hdigits, hdigit, hzero⟩ := ih (n / 10) (by omega) (by omega)
      refine ⟨c, cs ++ [(n % 10).digitChar], ?_, hdigit, hzero⟩
      rw [Nat.toDigits_of_base_le (by decide) (by omega), hdigits, List.cons_append]

theorem split_digits {digits rest : List Char} (hdigits : ∀ c ∈ digits, c.isDigit = true)
    (hrest : EndsNumber rest) : Digits.split (digits ++ rest) = (digits, rest) := by
  -- What follows a number is no digit, so the digits end there.
  have hstop : rest.takeWhile Char.isDigit = [] ∧ rest.dropWhile Char.isDigit = rest := by
    cases rest with
    | nil => exact ⟨rfl, rfl⟩
    | cons c cs =>
      have hc : c.isDigit = false := by
        rcases hrest c rfl with rfl | rfl
        · rfl
        · rfl
      simp [hc]
  rw [Digits.split, List.takeWhile_append_of_pos hdigits, List.dropWhile_append_of_pos hdigits,
    hstop.1, hstop.2, List.append_nil]

theorem wholeDigits?_toDigits (n : Nat) {rest : List Char} (hrest : EndsNumber rest) :
    wholeDigits? (Nat.toDigits 10 n ++ rest) = some (Nat.toDigits 10 n, rest) := by
  by_cases hn : n = 0
  · subst hn
    rfl
  -- Any other number starts with a digit that is not zero.
  · obtain ⟨c, cs, hdigits, hdigit, hzero⟩ := head_toDigits hn
    have hall : ∀ c ∈ Nat.toDigits 10 n, c.isDigit = true :=
      fun c hc => Nat.isDigit_of_mem_toDigits (by decide) (by decide) hc
    rw [← split_digits hall hrest, hdigits, List.cons_append]
    simp [wholeDigits?, hdigit]

theorem length_toDigits_le {n limit : Nat} (hlimit : 0 < limit) (h : n < Nat.pow 10 limit) :
    (Nat.toDigits 10 n).length ≤ limit :=
  (Nat.length_toDigits_le_iff (by decide) hlimit).mpr h

theorem magnitude_toDigits {n : Nat} (hn : Digits.isWritable n = true) (start : List Char)
    {rest : List Char} (hrest : EndsNumber rest) :
    magnitude false start (Nat.toDigits 10 n ++ rest) = .ok (.int n, rest) := by
  -- What ends a number starts neither a fraction nor an exponent.
  have hfraction : fraction? rest = none := by
    unfold fraction?
    split
    · next h => rcases hrest '.' rfl with h | h <;> cases h
    · rfl
  have hexponent : Digits.exponent? rest = none := by
    unfold Digits.exponent?
    split
    · next h => rcases hrest 'e' rfl with h | h <;> cases h
    · next h => rcases hrest 'E' rfl with h | h <;> cases h
    · rfl
  -- The limit on digits is what makes a number readable that can be written.
  have hlength : (Nat.toDigits 10 n).length ≤ Digits.limit := by
    rw [Digits.isWritable, decide_eq_true_eq, Int.natAbs_natCast] at hn
    exact length_toDigits_le (by decide) hn
  rw [magnitude, wholeDigits?_toDigits n hrest]
  simp [hfraction, hexponent, Nat.not_lt_of_le hlength, toNat_toDigits]

/-! ## White space -/

theorem skipSpace_cons {c : Char} (h : isSpace c = false) (rest : List Char) :
    skipSpace (c :: rest) = c :: rest := by
  rw [skipSpace, List.dropWhile_cons_of_neg (by simp [h])]

/-- The indentation in front of a line is skipped. -/
theorem skipSpace_newline {c : Char} (h : isSpace c = false) (level : Nat) (rest : List Char) :
    skipSpace (newline level ++ c :: rest) = c :: rest := by
  have hspace : ∀ d ∈ newline level, isSpace d = true := by
    intro d hd
    rcases List.mem_cons.mp hd with rfl | hd
    · rfl
    · rw [List.eq_of_mem_replicate hd]
      rfl
  rw [skipSpace, List.dropWhile_append_of_pos hspace]
  exact skipSpace_cons h rest

/-- Every written document starts with a character of its own: no space, and nothing that would end
a list or a record. -/
def StartsValue (cs : List Char) : Prop :=
  ∃ c rest, cs = c :: rest ∧ isSpace c = false ∧ c ≠ ']' ∧ c ≠ '\ufeff'

theorem isSpace_of_isDigit {c : Char} (h : c.isDigit = true) :
    isSpace c = false ∧ c ≠ ']' ∧ c ≠ '\ufeff' := by
  refine ⟨?_, ?_, ?_⟩
  · cases hspace : isSpace c with
    | false => rfl
    | true =>
      simp only [isSpace, Bool.or_eq_true, decide_eq_true_eq, or_assoc] at hspace
      rcases hspace with rfl | rfl | rfl | rfl <;> cases h
  · intro hc
    subst hc
    cases h
  · intro hc
    subst hc
    cases h

theorem startsValue_write (level : Nat) (o : Outline) : StartsValue (write level o) := by
  cases o with
  | text s => exact ⟨'"', _, rfl, rfl, by decide, by decide⟩
  | number n =>
    obtain ⟨c, cs, hdigits, hdigit⟩ := exists_toDigits_eq_cons n
    exact ⟨c, cs, hdigits, isSpace_of_isDigit hdigit⟩
  | list items =>
    cases items with
    | nil => exact ⟨'[', _, rfl, rfl, by decide, by decide⟩
    | cons first rest => exact ⟨'[', _, rfl, rfl, by decide, by decide⟩
  | record fields =>
    cases fields with
    | nil => exact ⟨'\x7b', _, rfl, rfl, by decide, by decide⟩
    | cons field rest => exact ⟨'\x7b', _, rfl, rfl, by decide, by decide⟩

/-! ## Lists and records, one step at a time -/

section Steps

variable {fuel level : Nat} {cs more rest : List Char}

theorem string_quote (name : String) :
    string (name.toList.flatMap escapeChar ++ '"' :: rest) =
      .ok (Text.ofChars name.toList, rest) :=
  stringBody_escaped name.toList

theorem ofCodePoints_ofChars (name : String) :
    Value.ofCodePoints (Text.ofChars name.toList) = .text name := by
  rw [Value.ofCodePoints, Text.chars?_ofChars]
  simp only [String.ofList_toList]

theorem value_number {n : Nat} (hn : Digits.isWritable n = true) (hrest : EndsNumber rest) :
    value (fuel + 1) (Nat.toDigits 10 n ++ rest) = .ok (.int n, rest) := by
  have hmagnitude := magnitude_toDigits hn (Nat.toDigits 10 n ++ rest) hrest
  obtain ⟨c, digits, hdigits, hdigit⟩ := exists_toDigits_eq_cons n
  rw [hdigits, List.cons_append] at hmagnitude ⊢
  -- No other kind of value starts with a digit.
  have hother (d : Char) (hd : d.isDigit = false) (cs : List Char) :
      c :: (digits ++ rest) ≠ d :: cs := by
    intro h
    rw [(List.cons.inj h).1, hd] at hdigit
    cases hdigit
  rw [value, scalar, hmagnitude]
  all_goals exact fun _ => hother _ rfl _

theorem value_list (level : Nat) {items : List Value} (hstarts : StartsValue cs)
    (hitems : Json.items fuel cs = .ok (items, rest)) :
    value (fuel + 1) ('[' :: newline level ++ cs) = .ok (.list items, rest) := by
  -- The reader skips the line break and finds the front of an item, not the bracket.
  obtain ⟨c, behind, rfl, hspace, hbracket, _⟩ := hstarts
  rw [List.cons_append, value, skipSpace_newline hspace]
  split
  · next h =>
    cases h
    exact absurd rfl hbracket
  · rw [hitems]
    rfl

theorem value_record (level : Nat) {found : Entries}
    (hentries : Json.entries fuel [] ('"' :: cs) = .ok (found, rest)) :
    value (fuel + 1) ('\x7b' :: newline level ++ '"' :: cs) = .ok (.mapping found, rest) := by
  rw [List.cons_append, value, skipSpace_newline rfl]
  split
  · next h => cases h
  · rw [hentries]
    rfl

theorem items_last {first : Value}
    (hvalue : value fuel cs = .ok (first, newline level ++ ']' :: rest)) :
    items (fuel + 1) cs = .ok ([first], rest) := by
  have hbracket : skipSpace (newline level ++ ']' :: rest) = ']' :: rest :=
    skipSpace_newline rfl level rest
  simp only [items, hvalue, hbracket, bind, Except.bind]
  rfl

theorem items_more {first : Value} {others : List Value}
    (hvalue : value fuel cs = .ok (first, ',' :: newline level ++ more))
    (hstarts : StartsValue more) (hothers : items fuel more = .ok (others, rest)) :
    items (fuel + 1) cs = .ok (first :: others, rest) := by
  obtain ⟨c, behind, rfl, hspace, _, _⟩ := hstarts
  -- Behind the comma only a line break is skipped.
  have hcomma : skipSpace (',' :: (newline level ++ c :: behind)) =
      ',' :: (newline level ++ c :: behind) := skipSpace_cons rfl _
  have hmore : skipSpace (newline level ++ c :: behind) = c :: behind :=
    skipSpace_newline hspace level behind
  simp only [items, hvalue, List.cons_append, hcomma, hmore, hothers, bind, Except.bind]
  rfl

/-- How a mapping goes on behind an entry that has been read. -/
def entriesBehind (fuel : Nat) (now : Entries) : List Char → Reading (Entries × List Char)
  | '\x7d' :: rest => pure (now, rest)
  | ',' :: rest => entries fuel now (skipSpace rest)
  | rest => throw ⟨.expectedComma, rest⟩

theorem entries_field {before : Entries} {name : String} {v : Value} (hstarts : StartsValue cs)
    (hvalue : value fuel cs = .ok (v, more)) :
    entries (fuel + 1) before (quote name ++ ':' :: ' ' :: cs) =
      entriesBehind fuel (before.put (.text name) v) (skipSpace more) := by
  -- The name is read up to its quote, then the colon, then the value.
  obtain ⟨c, behind, rfl, hspace, _, _⟩ := hstarts
  have hskip : skipSpace (' ' :: c :: behind) = c :: behind := skipSpace_cons hspace behind
  have hquote : quote name ++ ':' :: ' ' :: c :: behind =
      '"' :: (name.toList.flatMap escapeChar ++ '"' :: ':' :: ' ' :: c :: behind) := by
    simp [quote]
  have hcolon : skipSpace (':' :: ' ' :: c :: behind) = ':' :: ' ' :: c :: behind :=
    skipSpace_cons rfl _
  rw [hquote, entries, string_quote]
  simp only [bind, Except.bind, hcolon, hskip, hvalue, ofCodePoints_ofChars]
  rfl

theorem entries_last (before : Entries) (name : String) {v : Value} (hstarts : StartsValue cs)
    (hvalue : value fuel cs = .ok (v, newline level ++ '\x7d' :: rest)) :
    entries (fuel + 1) before (quote name ++ ':' :: ' ' :: cs) =
      .ok (before.put (.text name) v, rest) := by
  rw [entries_field hstarts hvalue, skipSpace_newline rfl]
  rfl

theorem entries_more (before : Entries) (name : String) {v : Value} (hstarts : StartsValue cs)
    (hvalue : value fuel cs = .ok (v, ',' :: newline level ++ '"' :: more)) :
    entries (fuel + 1) before (quote name ++ ':' :: ' ' :: cs) =
      entries fuel (before.put (.text name) v) ('"' :: more) := by
  have hmore : skipSpace (newline level ++ '"' :: more) = '"' :: more :=
    skipSpace_newline rfl level more
  rw [entries_field hstarts hvalue, List.cons_append, skipSpace_cons rfl]
  show entries fuel (before.put (.text name) v) (skipSpace (newline level ++ '"' :: more)) = _
  rw [hmore]

end Steps

end Json

/-! ## Documents that can be read back -/

namespace Outline

mutual

/-- No number has more digits than are read, and no record has a name twice. -/
def IsReadable : Outline → Prop
  | text _ => True
  | number n => Digits.isWritable n = true
  | list items => AllReadable items
  | record fields => (fields.map Prod.fst).Nodup ∧ FieldsReadable fields

/-- All documents can be read back. -/
def AllReadable : List Outline → Prop
  | [] => True
  | first :: rest => first.IsReadable ∧ AllReadable rest

/-- The values of all fields can be read back. -/
def FieldsReadable : List (String × Outline) → Prop
  | [] => True
  | (_, value) :: rest => value.IsReadable ∧ FieldsReadable rest

end

theorem not_mem_of_nodup {done rest : List (String × Outline)} {name : String} {value : Outline}
    (h : ((done ++ (name, value) :: rest).map Prod.fst).Nodup) : name ∉ done.map Prod.fst := by
  rw [List.map_append, List.map_cons, List.nodup_append] at h
  intro hmem
  exact h.2.2 name hmem name List.mem_cons_self rfl

/-- A field with a new name is put behind the others. -/
theorem put_toEntries {done : List (String × Outline)} {name : String}
    (h : name ∉ done.map Prod.fst) (value : Outline) :
    (toEntries done).put (.text name) value.toValue = toEntries (done ++ [(name, value)]) := by
  induction done with
  | nil => rfl
  | cons field rest ih =>
    obtain ⟨other, old⟩ := field
    rw [List.map_cons, List.mem_cons, not_or] at h
    have hother : (Value.text other).sameKey (.text name) = false :=
      decide_eq_false fun heq => h.1 heq.symm
    -- The name is not among those in front, so it is added at the end.
    rw [List.cons_append, toEntries, toEntries, Entries.put, hother, ih h.2]
    rfl

end Outline

namespace Json

/-- The texts of the items of a list, from the first one on. -/
def itemLines (level : Nat) : List Outline → List Char
  | [] => []
  | first :: rest => write level first ++ writeItems level rest

/-- The texts of the fields of a record, from the first one on. -/
def fieldLines (level : Nat) : List (String × Outline) → List Char
  | [] => []
  | (name, value) :: rest =>
    quote name ++ ':' :: ' ' :: write level value ++ writeFields level rest

theorem write_list_cons (level : Nat) (first : Outline) (rest : List Outline) :
    write level (.list (first :: rest)) =
      '[' :: newline (level + 1) ++ itemLines (level + 1) (first :: rest) ++ newline level ++
        [']'] := by
  simp [write, itemLines]

theorem write_record_cons (level : Nat) (field : String × Outline)
    (rest : List (String × Outline)) :
    write level (.record (field :: rest)) =
      '\x7b' :: newline (level + 1) ++ fieldLines (level + 1) (field :: rest) ++ newline level ++
        ['\x7d'] := by
  obtain ⟨name, value⟩ := field
  simp [write, fieldLines]

theorem endsNumber_newline (level : Nat) (rest : List Char) :
    EndsNumber (newline level ++ rest) := by
  intro c hc
  cases hc
  exact .inr rfl

theorem endsNumber_comma (rest : List Char) : EndsNumber (',' :: rest) := by
  intro c hc
  cases hc
  exact .inl rfl

theorem StartsValue.append {cs : List Char} (h : StartsValue cs) (more : List Char) :
    StartsValue (cs ++ more) := by
  obtain ⟨c, rest, rfl, hc⟩ := h
  exact ⟨c, rest ++ more, rfl, hc⟩

theorem startsValue_itemLines (level : Nat) (first : Outline) (rest : List Outline) :
    StartsValue (itemLines level (first :: rest)) :=
  (startsValue_write level first).append _

theorem exists_fieldLines_eq (level : Nat) (field : String × Outline)
    (rest : List (String × Outline)) :
    ∃ cs, fieldLines level (field :: rest) = '"' :: cs := by
  obtain ⟨name, value⟩ := field
  exact ⟨_, rfl⟩

mutual

/-- A document is read up to its end. -/
theorem value_write : ∀ (o : Outline) (level fuel : Nat) (rest : List Char), o.IsReadable →
    (write level o).length ≤ fuel → EndsNumber rest →
    value fuel (write level o ++ rest) = .ok (o.toValue, rest)
  | o, level, 0, rest, _, hfuel, _ => by
    -- No document is written as nothing, so there is always something to count from.
    obtain ⟨c, cs, hwrite, _⟩ := startsValue_write level o
    rw [hwrite] at hfuel
    cases hfuel
  | .text s, level, fuel + 1, rest, _, _, _ => by
    have hquote : quote s ++ rest = '"' :: (s.toList.flatMap escapeChar ++ '"' :: rest) := by
      simp [quote]
    rw [write, hquote, value, string_quote]
    simp only [bind, Except.bind, ofCodePoints_ofChars]
    rfl
  | .number n, level, fuel + 1, rest, h, _, hrest => by
    rw [write]
    exact value_number h hrest
  | .list [], level, fuel + 1, rest, _, _, _ => by
    rw [write, List.cons_append, value, List.cons_append, skipSpace_cons rfl]
    rfl
  | .list (first :: others), level, fuel + 1, rest, h, hfuel, _ => by
    rw [write_list_cons] at hfuel ⊢
    have hshorter : (itemLines (level + 1) (first :: others)).length < fuel := by
      simp only [List.length_append, List.length_cons] at hfuel
      omega
    have hitems := items_write (first :: others) (level + 1) level fuel rest (by simp) h hshorter
    have hstarts := ((startsValue_itemLines (level + 1) first others).append
      (newline level)).append (']' :: rest)
    have hvalue := value_list (level + 1) hstarts hitems
    simpa [Outline.toValue] using hvalue
  | .record [], level, fuel + 1, rest, _, _, _ => by
    rw [write, List.cons_append, value, List.cons_append, skipSpace_cons rfl]
    rfl
  | .record (field :: others), level, fuel + 1, rest, h, hfuel, _ => by
    rw [write_record_cons] at hfuel ⊢
    have hshorter : (fieldLines (level + 1) (field :: others)).length < fuel := by
      simp only [List.length_append, List.length_cons] at hfuel
      omega
    have hentries := entries_write (field :: others) [] (level + 1) level fuel rest (by simp) h.1
      h.2 hshorter
    -- The reader decides by the first character, which is the quote of the first name.
    obtain ⟨cs, hcs⟩ := exists_fieldLines_eq (level + 1) field others
    rw [hcs] at hentries ⊢
    have hvalue := value_record (level + 1) hentries
    simpa [Outline.toValue] using hvalue

/-- The items of a list are read up to its closing bracket. -/
theorem items_write : ∀ (items : List Outline) (level close fuel : Nat) (rest : List Char),
    items ≠ [] → Outline.AllReadable items → (itemLines level items).length < fuel →
    Json.items fuel (itemLines level items ++ newline close ++ ']' :: rest) =
      .ok (Outline.toValues items, rest)
  | [], _, _, _, _, hne, _, _ => absurd rfl hne
  | _ :: _, _, _, 0, _, _, _, hfuel => absurd hfuel (Nat.not_lt_zero _)
  | first :: [], level, close, fuel + 1, rest, _, h, hfuel => by
    have hshorter : (write level first).length ≤ fuel := by
      simp only [itemLines, List.length_append] at hfuel
      omega
    have hvalue := value_write first level fuel (newline close ++ ']' :: rest) h.1 hshorter
      (endsNumber_newline close _)
    have hitems := items_last hvalue
    simpa [itemLines, writeItems, Outline.toValues] using hitems
  | first :: second :: others, level, close, fuel + 1, rest, _, h, hfuel => by
    let more := itemLines level (second :: others) ++ newline close ++ ']' :: rest
    have hshorter : (write level first).length ≤ fuel ∧
        (itemLines level (second :: others)).length < fuel := by
      simp only [itemLines, writeItems, List.length_append, List.length_cons] at hfuel ⊢
      omega
    have hvalue := value_write first level fuel (',' :: (newline level ++ more)) h.1 hshorter.1
      (endsNumber_comma _)
    have hothers := items_write (second :: others) level close fuel rest (by simp) h.2 hshorter.2
    have hstarts := ((startsValue_itemLines level second others).append
      (newline close)).append (']' :: rest)
    have hitems := items_more hvalue hstarts hothers
    simpa [more, itemLines, writeItems, Outline.toValues] using hitems

/-- The fields of a record are read up to its closing brace, and put behind those before them. -/
theorem entries_write : ∀ (fields done : List (String × Outline)) (level close fuel : Nat)
    (rest : List Char), fields ≠ [] → ((done ++ fields).map Prod.fst).Nodup →
    Outline.FieldsReadable fields → (fieldLines level fields).length < fuel →
    Json.entries fuel (Outline.toEntries done)
        (fieldLines level fields ++ newline close ++ '\x7d' :: rest) =
      .ok (Outline.toEntries (done ++ fields), rest)
  | [], _, _, _, _, _, hne, _, _, _ => absurd rfl hne
  | _ :: _, _, _, _, 0, _, _, _, _, hfuel => absurd hfuel (Nat.not_lt_zero _)
  | (name, v) :: [], done, level, close, fuel + 1, rest, _, hnames, h, hfuel => by
    have hshorter : (write level v).length ≤ fuel := by
      simp only [fieldLines, List.length_append, List.length_cons] at hfuel
      omega
    have hvalue := value_write v level fuel (newline close ++ '\x7d' :: rest) h.1 hshorter
      (endsNumber_newline close _)
    have hentries := entries_last (Outline.toEntries done) name
      ((startsValue_write level v).append _) hvalue
    rw [Outline.put_toEntries (Outline.not_mem_of_nodup hnames)] at hentries
    simpa [fieldLines, writeFields] using hentries
  | (name, v) :: second :: others, done, level, close, fuel + 1, rest, _, hnames, h, hfuel => by
    have hshorter : (write level v).length ≤ fuel ∧
        (fieldLines level (second :: others)).length < fuel := by
      simp only [fieldLines, writeFields, List.length_append, List.length_cons] at hfuel ⊢
      omega
    -- The field is put behind those before it, and the others are read behind it.
    have hput := Outline.put_toEntries (Outline.not_mem_of_nodup hnames) v
    rw [List.append_cons] at hnames
    have hothers := entries_write (second :: others) (done ++ [(name, v)]) level close fuel rest
      (by simp) hnames h.2 hshorter.2
    obtain ⟨cs, hcs⟩ := exists_fieldLines_eq level second others
    rw [hcs] at hothers
    have hvalue := value_write v level fuel
      (',' :: newline level ++ '"' :: (cs ++ newline close ++ '\x7d' :: rest)) h.1 hshorter.1
      (endsNumber_comma _)
    have hentries := entries_more (Outline.toEntries done) name
      ((startsValue_write level v).append _) hvalue
    rw [hput] at hentries
    have htext : fieldLines level ((name, v) :: second :: others) =
        quote name ++ ':' :: ' ' :: write level v ++ ',' :: newline level ++ '"' :: cs := by
      rw [← hcs]
      simp [fieldLines, writeFields]
    rw [htext]
    simpa using hentries.trans (by simpa using hothers)

end

/-- **What was written is read back**, with or without line ends behind it. -/
theorem read_render {o : Outline} (h : o.IsReadable) (tail : String)
    (htail : ∀ c ∈ tail.toList, c = '\n') : read (render o ++ tail) = .ok o.toValue := by
  have htext : (render o ++ tail).toList = write 0 o ++ tail.toList := by
    rw [render, String.toList_append, String.toList_ofList]
  have hends : EndsNumber tail.toList := by
    intro c hc
    exact .inr (htail c (List.mem_of_head? hc))
  have hspace : skipSpace tail.toList = [] := by
    have hall : ∀ c ∈ tail.toList, isSpace c = true := by
      intro c hc
      rw [htail c hc]
      rfl
    rw [skipSpace, ← List.append_nil tail.toList, List.dropWhile_append_of_pos hall]
    rfl
  obtain ⟨c, cs, hcs, hc, _, hmark⟩ := (startsValue_write 0 o).append tail.toList
  have hfuel : (write 0 o).length ≤ 2 * (write 0 o ++ tail.toList).length + 2 := by
    rw [List.length_append]
    omega
  have hvalue := value_write o 0 _ tail.toList h hfuel hends
  have hdocument : document (write 0 o ++ tail.toList) = .ok o.toValue := by
    rw [hcs] at hvalue ⊢
    unfold document
    split
    · next hfirst => exact absurd (List.cons.inj hfirst).1 hmark
    · rw [skipSpace_cons hc]
      simp only [hvalue, hspace, bind, Except.bind]
      rfl
  rw [read, htext, hdocument]
  rfl

/-! ## The characters of a written document -/

/-- A line end, or no control character. -/
def IsPlain (c : Char) : Prop := c = '\n' ∨ 0x20 ≤ c.toNat

instance (c : Char) : Decidable (IsPlain c) := inferInstanceAs (Decidable (_ ∨ _))

/-- All characters are line ends or no control characters. -/
def AllPlain (cs : List Char) : Prop := ∀ c ∈ cs, IsPlain c

@[simp] theorem allPlain_nil : AllPlain [] := nofun

@[simp] theorem allPlain_cons {c : Char} {cs : List Char} :
    AllPlain (c :: cs) ↔ IsPlain c ∧ AllPlain cs := List.forall_mem_cons

@[simp] theorem allPlain_append {cs ds : List Char} :
    AllPlain (cs ++ ds) ↔ AllPlain cs ∧ AllPlain ds := List.forall_mem_append

theorem allPlain_escapeChar (c : Char) : AllPlain (escapeChar c) := by
  have hescaped := escapedAs_escapeChar c
  generalize escapeChar c = written at hescaped
  have hdigit : ∀ n < 16, IsPlain (Nat.digitChar n) := by decide
  have hbackslash : IsPlain '\\' := by decide
  have hcode : IsPlain 'u' := by decide
  cases hescaped with
  | @letter letter _ hprintable _ =>
    have hletter : IsPlain letter := .inr hprintable
    simp [hbackslash, hletter]
  | code hcontrol =>
    obtain ⟨hhex, _⟩ := hex_of_control c.toNat hcontrol
    have hhigh : IsPlain (Nat.digitChar (c.toNat / 16)) := hdigit _ (by omega)
    have hlow : IsPlain (Nat.digitChar (c.toNat % 16)) := hdigit _ (by omega)
    have hzero : IsPlain '0' := hdigit 0 (by omega)
    simp [hhex, hbackslash, hcode, hzero, hhigh, hlow]
  | itself _ _ hprintable =>
    have hc : IsPlain c := .inr (Nat.le_of_not_lt hprintable)
    simp [hc]

@[simp] theorem allPlain_quote (s : String) : AllPlain (quote s) := by
  have hbody : AllPlain (s.toList.flatMap escapeChar) := by
    intro c hc
    obtain ⟨d, _, hd⟩ := List.mem_flatMap.mp hc
    exact allPlain_escapeChar d c hd
  have hquote : IsPlain '"' := by decide
  simp [quote, hbody, hquote]

@[simp] theorem allPlain_newline (level : Nat) : AllPlain (newline level) := by
  refine allPlain_cons.mpr ⟨.inl rfl, fun c hc => ?_⟩
  rw [List.eq_of_mem_replicate hc]
  decide

theorem allPlain_toDigits (n : Nat) : AllPlain (Nat.toDigits 10 n) := by
  intro c hc
  have hdigit : c.isDigit = true := Nat.isDigit_of_mem_toDigits (by decide) (by decide) hc
  simp only [Char.isDigit, Bool.and_eq_true, decide_eq_true_eq] at hdigit
  have hcode : 48 ≤ c.toNat := UInt32.le_iff_toNat_le.mp hdigit.1
  exact .inr (by omega)

mutual

theorem allPlain_write : ∀ (o : Outline) (level : Nat), AllPlain (write level o)
  | .text s, level => by
    rw [write]
    exact allPlain_quote s
  | .number n, level => by
    rw [write]
    exact allPlain_toDigits n
  | .list [], level => by
    simp [write, IsPlain]
  | .list (first :: rest), level => by
    have hfirst := allPlain_write first (level + 1)
    have hrest := allPlain_writeItems rest (level + 1)
    simp [write, hfirst, hrest, IsPlain]
  | .record [], level => by
    simp [write, IsPlain]
  | .record ((name, value) :: rest), level => by
    have hvalue := allPlain_write value (level + 1)
    have hrest := allPlain_writeFields rest (level + 1)
    simp [write, hvalue, hrest, IsPlain]

theorem allPlain_writeItems : ∀ (items : List Outline) (level : Nat),
    AllPlain (writeItems level items)
  | [], level => by
    rw [writeItems]
    exact allPlain_nil
  | first :: rest, level => by
    have hfirst := allPlain_write first level
    have hrest := allPlain_writeItems rest level
    simp [writeItems, hfirst, hrest, IsPlain]

theorem allPlain_writeFields : ∀ (fields : List (String × Outline)) (level : Nat),
    AllPlain (writeFields level fields)
  | [], level => by
    rw [writeFields]
    exact allPlain_nil
  | (name, value) :: rest, level => by
    have hvalue := allPlain_write value level
    have hrest := allPlain_writeFields rest level
    simp [writeFields, hvalue, hrest, IsPlain]

end

end Json

end SchemaMigration
