import SchemaMigration.Json.Reader
import SchemaMigration.Proofs.Refusal
import SchemaMigration.Text.Newline

/-!
# The integers of a JSON text

An integer with more digits than are read is a fault of the text, so every integer in a value that
was read can be written again (`Json.writable_of_read`). The limit is met only where the text has
more digits than that in a row (`Json.hasLongRow_of_read`).

Both are kept by every step of the reader (`Json.Keeps`). A step leaves a part of what it was given,
and never something else: the digits it counts are digits of the whole text.
-/

namespace SchemaMigration

/-! ## Rows of digits -/

namespace Digits

/-- A text has more digits in a row than are read. -/
def HasLongRow (cs : List Char) : Prop :=
  ∃ row, row <:+: cs ∧ (∀ c ∈ row, c.isDigit = true) ∧ limit < row.length

theorem HasLongRow.of_suffix {cs rest : List Char} (h : HasLongRow rest) (hrest : rest <:+ cs) :
    HasLongRow cs := by
  obtain ⟨row, hrow, hdigits, hlong⟩ := h
  exact ⟨row, hrow.trans hrest.isInfix, hdigits, hlong⟩

theorem not_hasLongRow_of_length_le {cs : List Char} (h : cs.length ≤ limit) : ¬HasLongRow cs := by
  intro ⟨row, hrow, _, hlong⟩
  have hlength := hrow.length_le
  omega

theorem digit_lt_ten {c : Char} (h : c.isDigit = true) : c.toNat - '0'.toNat < 10 := by
  have hrange := Char.isDigit_iff_toNat.mp h
  have hzero : '0'.toNat = 48 := rfl
  have hnine : '9'.toNat = 57 := rfl
  omega

/-- The number is built up from the left: digits that follow a number raise it by less than one at
the place in front of them. -/
theorem foldl_lt {digits : List Char} (hdigits : ∀ c ∈ digits, c.isDigit = true) (n : Nat) :
    digits.foldl (fun n c => n * 10 + (c.toNat - '0'.toNat)) n <
      (n + 1) * Nat.pow 10 digits.length := by
  induction digits generalizing n with
  | nil =>
    show n < (n + 1) * 1
    omega
  | cons c rest ih =>
    obtain ⟨hc, hrest⟩ := List.forall_mem_cons.mp hdigits
    -- The digits in front have been added up, and the next one is less than ten.
    have hnext := ih hrest (n * 10 + (c.toNat - '0'.toNat))
    have hdigit := digit_lt_ten hc
    have hstep : n * 10 + (c.toNat - '0'.toNat) + 1 ≤ (n + 1) * 10 := by omega
    have hpow : Nat.pow 10 (rest.length + 1) = Nat.pow 10 rest.length * 10 := rfl
    calc List.foldl _ _ (c :: rest)
      _ < (n * 10 + (c.toNat - '0'.toNat) + 1) * Nat.pow 10 rest.length := hnext
      _ ≤ ((n + 1) * 10) * Nat.pow 10 rest.length := Nat.mul_le_mul_right _ hstep
      _ = (n + 1) * Nat.pow 10 (c :: rest).length := by
        rw [List.length_cons, hpow, Nat.mul_assoc, Nat.mul_comm 10]

theorem toNat_lt {digits : List Char} {bound : Nat} (hdigits : ∀ c ∈ digits, c.isDigit = true)
    (hlength : digits.length ≤ bound) : toNat digits < Nat.pow 10 bound := by
  have hown := foldl_lt hdigits 0
  rw [Nat.zero_add, Nat.one_mul] at hown
  exact Nat.lt_of_lt_of_le hown (Nat.pow_le_pow_right (by decide) hlength)

/-- A number with no more digits than are read can be written. -/
theorem isWritable_toNat {digits : List Char} (hdigits : ∀ c ∈ digits, c.isDigit = true)
    (hlength : digits.length ≤ limit) : isWritable (toNat digits) = true := by
  rw [isWritable, decide_eq_true_eq, Int.natAbs_natCast]
  exact toNat_lt hdigits hlength

theorem isWritable_neg (n : Int) : isWritable (-n) = isWritable n := by
  rw [isWritable, isWritable, Int.natAbs_neg]

theorem split_eq {cs digits rest : List Char} (h : split cs = (digits, rest)) :
    digits ++ rest = cs ∧ ∀ c ∈ digits, c.isDigit = true := by
  cases h
  exact ⟨List.takeWhile_append_dropWhile, List.all_eq_true.mp List.all_takeWhile⟩

theorem split_suffix (cs : List Char) : (split cs).2 <:+ cs :=
  List.dropWhile_suffix _

theorem exponent?_suffix {cs rest : List Char} {scale : Int}
    (h : exponent? cs = some (scale, rest)) : rest <:+ cs := by
  unfold exponent? at h
  dsimp only at h
  -- An exponent is read to the end of its digits.
  have hdigits : ∀ {sign : Int} {c : Char} {cs : List Char},
      (if c.isDigit then some (sign * (toNat (split (c :: cs)).1 : Int), (split (c :: cs)).2)
        else none) = some (scale, rest) → rest <:+ c :: cs := by
    intro sign c cs h
    split at h
    · cases h
      exact split_suffix _
    · cases h
  split at h
  -- Behind either letter there may be a sign.
  case h_1 | h_2 =>
    refine List.IsSuffix.trans ?_ (List.suffix_cons _ _)
    split at h
    case h_1 | h_2 =>
      split at h
      · exact (hdigits h).trans (List.suffix_cons _ _)
      · cases h
    case h_3 =>
      split at h
      · exact hdigits h
      · cases h
  case h_3 => cases h

end Digits

namespace Json

/-! ## What a step of the reader keeps -/

/-- A reading of a text leaves a part of it and results in something of which `P` holds. It meets
too many digits only if the text has them in a row. -/
structure Keeps {α : Type} (P : α → Prop) (cs : List Char) (reading : Reading (α × List Char)) :
    Prop where
  ok : ∀ result rest, reading = .ok (result, rest) → P result ∧ rest <:+ cs
  tooManyDigits : ∀ count rest, reading = .error ⟨.tooManyDigits count, rest⟩ →
    Digits.HasLongRow cs

namespace Keeps

variable {α β : Type} {P : α → Prop} {Q : β → Prop} {cs rest : List Char}

theorem result {a : α} (hresult : P a) (hrest : rest <:+ cs) : Keeps P cs (.ok (a, rest)) where
  ok := by
    intro result rest' h
    cases h
    exact ⟨hresult, hrest⟩
  tooManyDigits := nofun

theorem failure {failure : Failure} (h : ∀ count, failure.fault ≠ .tooManyDigits count) :
    Keeps P cs (.error failure) where
  ok := nofun
  tooManyDigits := by
    intro count rest herror
    cases herror
    exact absurd rfl (h count)

theorem of_suffix {reading : Reading (α × List Char)} (h : Keeps P rest reading)
    (hrest : rest <:+ cs) : Keeps P cs reading where
  ok := by
    intro result rest' hok
    obtain ⟨hresult, hrest'⟩ := h.ok result rest' hok
    exact ⟨hresult, hrest'.trans hrest⟩
  tooManyDigits := by
    intro count rest' herror
    exact (h.tooManyDigits count rest' herror).of_suffix hrest

theorem of_drop {reading : Reading (α × List Char)} (count : Nat)
    (h : Keeps P (cs.drop count) reading) : Keeps P cs reading :=
  h.of_suffix (List.drop_suffix count cs)

/-- What goes on with the rest keeps what it does with every part of the text. -/
theorem bind {reading : Reading (α × List Char)} {next : α × List Char → Reading (β × List Char)}
    (h : Keeps P cs reading) (hnext : ∀ result rest, P result → rest <:+ cs →
      Keeps Q rest (next (result, rest))) : Keeps Q cs (reading >>= next) := by
  cases reading with
  | error failure =>
    -- The failure is the same one, but as that of a reading of another type.
    have hsame : ∀ count, failure.fault = .tooManyDigits count → Digits.HasLongRow cs := by
      intro count hcount
      refine h.tooManyDigits count failure.rest ?_
      rw [← hcount]
    refine ⟨nofun, ?_⟩
    intro count rest herror
    cases herror
    exact hsame count rfl
  -- What the next step is given is a part of what the first one was given.
  | ok found =>
    obtain ⟨hfound, hrest⟩ := h.ok found.1 found.2 rfl
    exact (hnext found.1 found.2 hfound hrest).of_suffix hrest

end Keeps

theorem skipSpace_suffix (cs : List Char) : skipSpace cs <:+ cs :=
  List.dropWhile_suffix _

/-! ## Strings -/

theorem keeps_consCode {c : Text.CodePoint} {cs : List Char}
    {reading : Reading (List Text.CodePoint × List Char)}
    (h : Keeps (fun _ => True) cs reading) : Keeps (fun _ => True) cs (consCode c reading) := by
  -- A code point in front of the rest changes neither the rest nor its fault.
  cases reading with
  | ok found =>
    obtain ⟨-, hrest⟩ := h.ok found.1 found.2 rfl
    exact .result trivial hrest
  | error failure =>
    refine ⟨nofun, ?_⟩
    intro count rest herror
    refine h.tooManyDigits count rest ?_
    cases herror
    rfl

theorem keeps_stringBody (start cs : List Char) :
    Keeps (fun _ => True) cs (stringBody start cs) := by
  -- A body ends at the quote, and all other cases read one more code point.
  fun_induction stringBody start cs
  case case2 => exact .of_drop 1 (.result trivial List.suffix_rfl)
  -- Two escapes that are read as one character, or one of them by itself.
  case case5 ih => exact keeps_consCode (.of_drop 12 ih)
  case case6 ih => exact keeps_consCode (.of_drop 6 ih)
  case case8 ih => exact keeps_consCode (.of_drop 6 ih)
  case case10 ih => exact keeps_consCode (.of_drop 2 ih)
  case case13 ih => exact keeps_consCode (.of_drop 1 ih)
  all_goals exact .failure nofun

theorem keeps_string (rest : List Char) : Keeps (fun _ => True) rest (string rest) :=
  keeps_stringBody _ rest

/-! ## Numbers -/

theorem wholeDigits?_spec {cs whole rest : List Char} (h : wholeDigits? cs = some (whole, rest)) :
    whole ++ rest = cs ∧ ∀ c ∈ whole, c.isDigit = true := by
  unfold wholeDigits? at h
  -- A zero stands alone; any other digit starts a row.
  split at h
  · cases h
    refine ⟨rfl, ?_⟩
    intro c hc
    rw [List.mem_singleton.mp hc]
    rfl
  · split at h
    · exact Digits.split_eq (Option.some.inj h)
    · cases h
  · cases h

theorem fraction?_suffix {cs places rest : List Char} (h : fraction? cs = some (places, rest)) :
    rest <:+ cs := by
  unfold fraction? at h
  split at h
  · split at h
    · cases h
      exact (Digits.split_suffix (_ :: _)).trans (List.suffix_cons _ _)
    · cases h
  · cases h

/-- A number keeps its digits: one that is too long is a row of them. -/
theorem keeps_magnitude (negative : Bool) (start cs : List Char) :
    Keeps Value.Writable cs (magnitude negative start cs) := by
  unfold magnitude
  split
  · exact .failure nofun
  · next whole rest hwhole =>
    obtain ⟨hsplit, hdigits⟩ := wholeDigits?_spec hwhole
    dsimp only
    have hrest : rest <:+ cs := ⟨whole, hsplit⟩
    have hfraction : ((fraction? rest).map (·.2)).getD rest <:+ cs := by
      cases h : fraction? rest with
      | none => exact hrest
      | some found => exact (fraction?_suffix h).trans hrest
    -- Of the fraction only what is left behind it matters for the exponent.
    generalize ((fraction? rest).map (·.2)).getD rest = behind at hfraction
    have hexponent : ((Digits.exponent? behind).map (·.2)).getD behind <:+ cs := by
      cases h : Digits.exponent? behind with
      | none => exact hfraction
      | some found => exact (Digits.exponent?_suffix h).trans hfraction
    split
    -- A number without a fraction and an exponent is an integer, and its digits are counted.
    · split
      · next hlong =>
        refine ⟨nofun, ?_⟩
        intro _ _ _
        exact ⟨whole, ⟨[], rest, hsplit⟩, hdigits, hlong⟩
      · next hshort =>
        have hnat := Digits.isWritable_toNat hdigits (Nat.le_of_not_lt hshort)
        refine .result ?_ hexponent
        intro n hn
        rw [List.mem_singleton.mp hn]
        split
        · rw [Digits.isWritable_neg, hnat]
        · exact hnat
    · exact .result nofun hexponent

theorem keeps_scalar (cs : List Char) : Keeps Value.Writable cs (scalar cs) := by
  unfold scalar
  split
  case h_1 => exact .of_drop 4 (.result nofun List.suffix_rfl)
  case h_2 => exact .of_drop 4 (.result nofun List.suffix_rfl)
  case h_3 => exact .of_drop 5 (.result nofun List.suffix_rfl)
  case h_4 => exact .of_drop 3 (.result nofun List.suffix_rfl)
  case h_5 => exact .of_drop 8 (.result nofun List.suffix_rfl)
  case h_6 => exact .of_drop 9 (.result nofun List.suffix_rfl)
  case h_7 => exact .of_drop 1 (keeps_magnitude true _ _)
  case h_8 => exact keeps_magnitude false _ _

/-! ## Values -/

theorem writable_ofCodePoints (codes : List Text.CodePoint) :
    (Value.ofCodePoints codes).Writable := by
  unfold Value.ofCodePoints
  split
  · exact nofun
  · exact nofun

theorem writable_put {entries : Entries} {key value : Value} (hentries : entries.Writable)
    (hkey : key.Writable) (hvalue : value.Writable) : (entries.put key value).Writable := by
  induction entries with
  | nil => exact List.forall_mem_singleton.mpr ⟨hkey, hvalue⟩
  | cons entry rest ih =>
    obtain ⟨hfirst, hrest⟩ := List.forall_mem_cons.mp hentries
    rw [Entries.put]
    split
    · exact List.forall_mem_cons.mpr ⟨⟨hfirst.1, hvalue⟩, hrest⟩
    · exact List.forall_mem_cons.mpr ⟨hfirst, ih hrest⟩

mutual

/-- By induction on the count that the reader counts down: it has less left for what is inside. -/
theorem keeps_value : ∀ (fuel : Nat) (cs : List Char), Keeps Value.Writable cs (value fuel cs)
  | 0, cs => by
    rw [value]
    exact .failure nofun
  | fuel + 1, cs => by
    unfold value
    -- One case for each first character: a quote, either bracket, and all others.
    split
    · next rest =>
      refine .of_drop 1 ((keeps_string rest).bind ?_)
      intro codes rest _ _
      exact .result (writable_ofCodePoints codes) List.suffix_rfl
    · next rest =>
      refine .of_drop 1 (.of_suffix ?_ (skipSpace_suffix rest))
      split
      · next heq =>
        rw [heq]
        exact .of_drop 1 (.result nofun List.suffix_rfl)
      · refine (keeps_items fuel _).bind ?_
        intro items rest hitems _
        exact .result (Value.forall_writable_iff.mp hitems) List.suffix_rfl
    · next rest =>
      refine .of_drop 1 (.of_suffix ?_ (skipSpace_suffix rest))
      split
      · next heq =>
        rw [heq]
        exact .of_drop 1 (.result nofun List.suffix_rfl)
      · refine (keeps_entries fuel [] _ nofun).bind ?_
        intro entries rest hentries _
        exact .result (Entries.writable_iff.mp hentries) List.suffix_rfl
    · exact keeps_scalar _

theorem keeps_items : ∀ (fuel : Nat) (cs : List Char),
    Keeps (fun items => ∀ item ∈ items, item.Writable) cs (items fuel cs)
  | 0, cs => by
    rw [items]
    exact .failure nofun
  -- Each item is read with less fuel, and what is left behind it is a part of the text.
  | fuel + 1, cs => by
    rw [items]
    refine (keeps_value fuel cs).bind ?_
    intro first rest hfirst _
    refine .of_suffix ?_ (skipSpace_suffix rest)
    dsimp only
    split
    · next heq =>
      rw [heq]
      exact .of_drop 1 (.result (List.forall_mem_singleton.mpr hfirst) List.suffix_rfl)
    · next behind heq =>
      rw [heq]
      refine .of_drop 1 (.of_suffix ?_ (skipSpace_suffix behind))
      refine (keeps_items fuel _).bind ?_
      intro more rest hmore _
      exact .result (List.forall_mem_cons.mpr ⟨hfirst, hmore⟩) List.suffix_rfl
    · exact .failure nofun

theorem keeps_entries : ∀ (fuel : Nat) (before : Entries) (cs : List Char), before.Writable →
    Keeps Entries.Writable cs (entries fuel before cs)
  | 0, before, cs, _ => by
    rw [entries]
    exact .failure nofun
  | fuel + 1, before, cs, hbefore => by
    unfold entries
    -- A field is its name, its value and what follows: the end, another field, or a fault.
    split
    · next rest =>
      refine .of_drop 1 ((keeps_string rest).bind ?_)
      intro name rest _ _
      refine .of_suffix ?_ (skipSpace_suffix rest)
      dsimp only
      split
      · next behind heq =>
        rw [heq]
        refine .of_drop 1 (.of_suffix ?_ (skipSpace_suffix behind))
        refine (keeps_value fuel _).bind ?_
        intro v rest hv _
        -- Names have no integers in them, so the entry can be written like its value.
        have hnow := writable_put hbefore (writable_ofCodePoints name) hv
        refine .of_suffix ?_ (skipSpace_suffix rest)
        dsimp only
        split
        · next heq =>
          rw [heq]
          exact .of_drop 1 (.result hnow List.suffix_rfl)
        · next behind heq =>
          rw [heq]
          exact .of_drop 1 ((keeps_entries fuel _ _ hnow).of_suffix (skipSpace_suffix behind))
        · exact .failure nofun
      · exact .failure nofun
    · exact .failure nofun

end

/-! ## Texts -/

/-- A document is read like a value that leaves nothing. -/
theorem keeps_document (cs : List Char) :
    Keeps Value.Writable cs ((fun v => (v, ([] : List Char))) <$> document cs) := by
  unfold document
  split
  · exact .failure nofun
  · rw [map_bind]
    refine .of_suffix ((keeps_value _ _).bind ?_) (skipSpace_suffix cs)
    intro v rest hv _
    -- Behind the value only white space may stand, and no digit is counted there.
    dsimp only
    split
    · exact .result hv List.nil_suffix
    · exact .failure nofun

theorem writable_of_document {cs : List Char} {v : Value} (h : document cs = .ok v) :
    v.Writable := by
  have hread : (fun v => (v, ([] : List Char))) <$> document cs = .ok (v, []) := by
    rw [h]
    rfl
  exact ((keeps_document cs).ok v [] hread).1

theorem hasLongRow_of_document {cs rest : List Char} {count : Nat}
    (h : document cs = .error ⟨.tooManyDigits count, rest⟩) : Digits.HasLongRow cs := by
  have hread : (fun v => (v, ([] : List Char))) <$> document cs =
      .error ⟨.tooManyDigits count, rest⟩ := by
    rw [h]
    rfl
  exact (keeps_document cs).tooManyDigits count rest hread

variable {text : String}

theorem writable_of_read {v : Value} (h : read text = .ok v) : v.Writable := by
  unfold read at h
  cases hdocument : document text.toList with
  -- A failure gives no value.
  | error failure =>
    rw [hdocument] at h
    cases h
  | ok found =>
    rw [hdocument] at h
    cases h
    exact writable_of_document hdocument

/-- An integer is too long to be read only in a text with a long row of digits. -/
theorem hasLongRow_of_read {error : Error} {count : Nat} (h : read text = .error error)
    (hfault : error.fault = .tooManyDigits count) : Digits.HasLongRow text.toList := by
  unfold read at h
  cases hdocument : document text.toList with
  | ok found =>
    rw [hdocument] at h
    cases h
  | error failure =>
    -- The fault of the text is that of its document.
    obtain ⟨fault, rest⟩ := failure
    rw [hdocument] at h
    cases h
    have hsame : fault = .tooManyDigits count := hfault
    rw [hsame] at hdocument
    exact hasLongRow_of_document hdocument

end Json

/-! ## Line ends -/

namespace Text

/-- Unifying line ends changes no digit. -/
theorem prefix_of_unifyNewlines {row cs : List Char} (hdigits : ∀ c ∈ row, c.isDigit = true)
    (h : row <+: unifyNewlines cs) : row <+: cs := by
  induction row generalizing cs with
  | nil => exact List.nil_prefix
  | cons digit row ih =>
    obtain ⟨hdigit, hrow⟩ := List.forall_mem_cons.mp hdigits
    unfold unifyNewlines at h
    split at h
    · cases List.prefix_nil.mp h
    -- A line end is no digit, so a row does not start with one.
    case h_2 | h_3 =>
      rw [(List.cons_prefix_cons.mp h).1] at hdigit
      cases hdigit
    case h_4 =>
      obtain ⟨hsame, hprefix⟩ := List.cons_prefix_cons.mp h
      exact List.cons_prefix_cons.mpr ⟨hsame, ih hrow hprefix⟩

theorem infix_of_unifyNewlines {row cs : List Char} (hdigits : ∀ c ∈ row, c.isDigit = true)
    (h : row <:+: unifyNewlines cs) : row <:+: cs := by
  -- The row stands at the front, or it is one of what follows.
  have hstep : ∀ {first : Char} {unified text rest : List Char},
      unifyNewlines text = first :: unified → row <:+: first :: unified →
      (row <:+: unified → row <:+: rest) → rest <:+ text → row <:+: text := by
    intro first unified text rest htext h ih hrest
    rcases List.infix_cons_iff.mp h with hprefix | hinfix
    · rw [← htext] at hprefix
      exact (prefix_of_unifyNewlines hdigits hprefix).isInfix
    · exact (ih hinfix).trans hrest.isInfix
  fun_induction unifyNewlines cs with
  | case1 => exact h
  | case2 rest ih => exact hstep (by rw [unifyNewlines]) h ih ⟨['\r', '\n'], rfl⟩
  | case3 rest hrest ih => exact hstep (by rw [unifyNewlines]; exact hrest) h ih ⟨['\r'], rfl⟩
  | case4 c rest hpair hlone ih =>
    exact hstep (by rw [unifyNewlines]; exacts [hpair, hlone]) h ih ⟨[c], rfl⟩

theorem hasLongRow_of_unifyNewlines {cs : List Char}
    (h : Digits.HasLongRow (unifyNewlines cs)) : Digits.HasLongRow cs := by
  obtain ⟨row, hrow, hdigits, hlong⟩ := h
  exact ⟨row, infix_of_unifyNewlines hdigits hrow, hdigits, hlong⟩

end Text

end SchemaMigration
