import SchemaMigration.Text.Utf8
import SchemaMigration.Toml.Reader

/-!
# Hexadecimal integers of TOML texts

The limit on digits is one for decimal integers. A hexadecimal integer is read whatever its length
(`Toml.read_hexLine`), so a table can hold an integer that cannot be written in decimal.
-/

namespace SchemaMigration

namespace Text

/-- The bytes of a text of ASCII characters. -/
def asciiBytes (cs : List Char) : List UInt8 := cs.map fun c => UInt8.ofNat c.toNat

theorem decodeUtf8_asciiBytes {cs : List Char} (h : ∀ c ∈ cs, c.toNat < 0x80) (offset : Nat) :
    decodeUtf8 offset none (asciiBytes cs) = .ok (cs, none) := by
  induction cs generalizing offset with
  | nil => rfl
  | cons c rest ih =>
    obtain ⟨hc, hrest⟩ := List.forall_mem_cons.mp h
    -- A byte below 0x80 is a character by itself, so none of them waits for a second one.
    have hstart : startChar? offset (UInt8.ofNat c.toNat) = some (.inl c) := by
      have hnat : (UInt8.ofNat c.toNat).toNat = c.toNat :=
        UInt8.toNat_ofNat_of_lt' (Nat.lt_trans hc (by decide))
      have hsmall : UInt8.ofNat c.toNat < 0x80 := by
        rw [UInt8.lt_iff_toNat_lt, hnat]
        exact hc
      unfold startChar?
      dsimp only
      rw [if_pos hsmall, hnat, Char.ofNat_toNat]
    show decodeUtf8 offset none (UInt8.ofNat c.toNat :: asciiBytes rest) = _
    rw [decodeUtf8, hstart]
    dsimp only
    rw [ih hrest]
    rfl

theorem ofUtf8_asciiBytes {cs : List Char} (h : ∀ c ∈ cs, c.toNat < 0x80) :
    ofUtf8 (asciiBytes cs) = .ok cs := by
  unfold ofUtf8
  rw [decodeUtf8_asciiBytes h 0]
  rfl

end Text

namespace Toml

/-- The number that a row of hexadecimal digits writes. -/
def hexNumber (digits : List Char) : Nat :=
  digits.foldl (fun n c => n * 16 + (Digits.hex? c).getD 0) 0

/-- A digit followed by zeros writes a multiple of a power of sixteen. -/
theorem hexNumber_zeros (first : Char) (count : Nat) :
    hexNumber (first :: List.replicate count '0') =
      (Digits.hex? first).getD 0 * Nat.pow 16 count := by
  -- The zeros are behind whatever was read before them.
  have hfrom : ∀ n, (List.replicate count '0').foldl
      (fun n c => n * 16 + (Digits.hex? c).getD 0) n = n * Nat.pow 16 count := by
    induction count with
    | zero => exact fun n => (Nat.mul_one n).symm
    | succ count ih =>
      intro n
      -- A zero multiplies what was read by 16 and adds nothing.
      rw [List.replicate_succ, List.foldl_cons, ih]
      show (n * 16 + 0) * Nat.pow 16 count = n * (Nat.pow 16 count * 16)
      rw [Nat.add_zero, Nat.mul_assoc, Nat.mul_comm 16]
  have hfirst : hexNumber (first :: List.replicate count '0') =
      (List.replicate count '0').foldl (fun n c => n * 16 + (Digits.hex? c).getD 0)
        (0 * 16 + (Digits.hex? first).getD 0) := rfl
  rw [hfirst, hfrom, Nat.zero_mul, Nat.zero_add]

section Reading

variable {digits : List Char} (hdigits : ∀ c ∈ digits, isDigitIn 16 c = true)

include hdigits

theorem moreDigits_hex : moreDigits (isDigitIn 16) (digits ++ ['\n']) = (digits, ['\n']) := by
  induction digits with
  | nil => rfl
  | cons c rest ih =>
    obtain ⟨hc, hrest⟩ := List.forall_mem_cons.mp hdigits
    -- An underscore between digits would be skipped, but it is no digit itself.
    have hunderscore : c ≠ '_' := by
      intro h
      rw [h] at hc
      cases hc
    rw [List.cons_append, moreDigits, if_pos hc, ih hrest]
    exact fun _ _ h => absurd h hunderscore

variable {first : Char} (hfirst : isDigitIn 16 first = true)

include hfirst

theorem basedInt?_hex :
    basedInt? ('0' :: 'x' :: first :: (digits ++ ['\n'])) =
      some (.ofNat (hexNumber (first :: digits)), ['\n']) := by
  -- The digits end at the line end, and the first of them is there.
  have hrow : digits? (isDigitIn 16) (first :: (digits ++ ['\n'])) =
      some (first :: digits, ['\n']) := by
    rw [digits?, if_pos hfirst, moreDigits_hex hdigits]
  show (digits? (isDigitIn 16) (first :: (digits ++ ['\n'])) >>= fun found =>
    some ((hexNumber found.1 : Int), found.2)) = _
  rw [hrow]
  rfl

theorem scalar_hex :
    scalar ('0' :: 'x' :: first :: (digits ++ ['\n'])) =
      .ok (.int (.ofNat (hexNumber (first :: digits))), ['\n']) := by
  -- What the letter `x` follows is no string, no word, no date and no time.
  have hstring : string? ('0' :: 'x' :: first :: (digits ++ ['\n'])) = none := rfl
  have hbool : bool? ('0' :: 'x' :: first :: (digits ++ ['\n'])) = none := rfl
  have hdate : dateOrMoment? ('0' :: 'x' :: first :: (digits ++ ['\n'])) = none := by
    cases digits <;> rfl
  have hclock : clock? ('0' :: 'x' :: first :: (digits ++ ['\n'])) = none := rfl
  unfold scalar
  rw [hstring, hbool, hdate, hclock, basedInt?_hex hdigits hfirst]

end Reading

/-! ## A line with a key -/

theorem toNat_lt_of_le {c last : Char} (h : c ≤ last) (hlast : last.toNat < 0x80) :
    c.toNat < 0x80 :=
  Nat.lt_of_le_of_lt (UInt32.le_iff_toNat_le.mp h) hlast

theorem toNat_lt_of_isKeyChar {c : Char} (h : isKeyChar c = true) : c.toNat < 0x80 := by
  have hkinds : (c.isUpper || c.isLower || c.isDigit || decide (c = '-') || decide (c = '_')) =
      true := h
  simp only [Bool.or_eq_true, decide_eq_true_eq] at hkinds
  -- Letters, digits and the two marks all stand below 0x80.
  rcases hkinds with (((hupper | hlower) | hdigit) | hdash) | hunderscore
  · have hrange := of_decide_eq_true hupper
    exact toNat_lt_of_le hrange.2 (by decide)
  · have hlast := ((Bool.and_eq_true _ _).mp hlower).2
    exact toNat_lt_of_le (of_decide_eq_true hlast) (by decide)
  · have hlast := ((Bool.and_eq_true _ _).mp hdigit).2
    exact toNat_lt_of_le (of_decide_eq_true hlast) (by decide)
  · rw [hdash]
    decide
  · rw [hunderscore]
    decide

theorem toNat_lt_of_isDigitIn {c : Char} (h : isDigitIn 16 c = true) : c.toNat < 0x80 := by
  unfold isDigitIn at h
  split at h
  -- The three ranges of digits, and anything else is no digit.
  · next n hn =>
    unfold Digits.hex? at hn
    split at hn
    · next hrange => exact toNat_lt_of_le hrange.2 (by decide)
    split at hn
    · next hrange => exact toNat_lt_of_le hrange.2 (by decide)
    split at hn
    · next hrange => exact toNat_lt_of_le hrange.2 (by decide)
    · cases hn
  · cases h

theorem ne_of_isKeyChar {c other : Char} (hc : isKeyChar c = true)
    (hother : isKeyChar other = false) : c ≠ other := by
  intro h
  rw [h, hother] at hc
  cases hc

theorem ne_of_isDigitIn {base : Nat} {c other : Char} (hc : isDigitIn base c = true)
    (hother : isDigitIn base other = false) : c ≠ other := by
  intro h
  rw [h, hother] at hc
  cases hc

theorem unifyLineEnds_eq {cs : List Char} (h : '\r' ∉ cs) : unifyLineEnds cs = cs := by
  induction cs with
  | nil => rfl
  | cons c rest ih =>
    obtain ⟨hc, hrest⟩ := not_or.mp (mt List.mem_cons.mpr h)
    rw [unifyLineEnds, ih hrest]
    exact fun _ heq => absurd heq.symm hc

/-- The text of a key with a hexadecimal integer. -/
def hexLine (name : List Char) (digits : List Char) : List Char :=
  name ++ ' ' :: '=' :: ' ' :: '0' :: 'x' :: (digits ++ ['\n'])

/-- What holds of the characters of the key, of the digits and of the marks holds throughout. -/
theorem forall_mem_hexLine {P : Char → Prop} {name digits : List Char} (hname : ∀ c ∈ name, P c)
    (hdigits : ∀ c ∈ digits, P c) (hspace : P ' ') (hequals : P '=') (hzero : P '0') (hx : P 'x')
    (hend : P '\n') : ∀ c ∈ hexLine name digits, P c := by
  have hlast : ∀ c ∈ digits ++ ['\n'], P c :=
    List.forall_mem_append.mpr ⟨hdigits, List.forall_mem_singleton.mpr hend⟩
  have hmarks : ∀ c ∈ ' ' :: '=' :: ' ' :: '0' :: 'x' :: (digits ++ ['\n']), P c := by
    simp only [List.forall_mem_cons]
    exact ⟨hspace, hequals, hspace, hzero, hx, hlast⟩
  exact List.forall_mem_append.mpr ⟨hname, hmarks⟩

section Line

variable {name digits : List Char} {head first : Char}
  (hname : ∀ c ∈ head :: name, isKeyChar c = true)
  (hdigits : ∀ c ∈ first :: digits, isDigitIn 16 c = true)

include hname

theorem key_hexLine (fuel : Nat) :
    key (fuel + 1) (hexLine (head :: name) (first :: digits)) =
      .ok ([String.ofList (head :: name)],
        '=' :: ' ' :: '0' :: 'x' :: (first :: digits ++ ['\n'])) := by
  have hpart : keyPart (hexLine (head :: name) (first :: digits)) =
      .ok (String.ofList (head :: name),
        ' ' :: '=' :: ' ' :: '0' :: 'x' :: (first :: digits ++ ['\n'])) := by
    have hhead : isKeyChar head = true := hname head List.mem_cons_self
    have hstop : (' ' :: '=' :: ' ' :: '0' :: 'x' :: (first :: digits ++ ['\n'])).takeWhile
        isKeyChar = [] := rfl
    unfold hexLine
    rw [List.cons_append, keyPart]
    -- The key ends at the space, and it is not one in quotes.
    · rw [← List.cons_append, List.takeWhile_append_of_pos hname,
        List.dropWhile_append_of_pos hname, hstop, List.append_nil]
      rfl
    · exact fun _ h => absurd (List.head_eq_of_cons_eq h) (ne_of_isKeyChar hhead rfl)
    · exact fun _ h => absurd (List.head_eq_of_cons_eq h) (ne_of_isKeyChar hhead rfl)
  rw [key, hpart]
  rfl

include hdigits

theorem keyValue_hexLine (fuel : Nat) :
    keyValue (fuel + 2) (hexLine (head :: name) (first :: digits)) =
      .ok ([String.ofList (head :: name)], .int (.ofNat (hexNumber (first :: digits))),
        ['\n']) := by
  obtain ⟨hfirst, hrest⟩ := List.forall_mem_cons.mp hdigits
  have hlength : (hexLine (head :: name) (first :: digits)).length =
      (hexLine name (first :: digits)).length + 1 := rfl
  rw [keyValue, hlength, key_hexLine hname]
  show (value (fuel + 1) ('0' :: 'x' :: first :: (digits ++ ['\n'])) >>= _ : Reading _) = _
  rw [value, scalar_hex hrest hfirst]
  · rfl
  -- A digit opens neither a list nor a table.
  · exact fun _ h => nomatch h
  · exact fun _ h => nomatch h

theorem statement_hexLine :
    Reader.statement ⟨[], [], 0⟩ (skipBlanks (hexLine (head :: name) (first :: digits))) =
      .ok (⟨[(String.ofList (head :: name), .value (.int (.ofNat (hexNumber (first :: digits)))))],
        [], 0⟩, ['\n']) := by
  -- The line starts with the key: it is not skipped, and it is no comment and no header.
  have hhead : isKeyChar head = true := hname head List.mem_cons_self
  have hblank : isBlank head = false := by
    simp [isBlank, ne_of_isKeyChar hhead (rfl : isKeyChar ' ' = false),
      ne_of_isKeyChar hhead (rfl : isKeyChar '\t' = false)]
  have hskip : skipBlanks (hexLine (head :: name) (first :: digits)) =
      hexLine (head :: name) (first :: digits) := by
    unfold skipBlanks hexLine
    rw [List.cons_append, List.dropWhile_cons_of_neg (by rw [hblank]; exact Bool.false_ne_true)]
  have hplain : ¬(head = '\n' ∨ head = '#') :=
    not_or.mpr ⟨ne_of_isKeyChar hhead rfl, ne_of_isKeyChar hhead rfl⟩
  have hbracket : head ≠ '[' := ne_of_isKeyChar hhead rfl
  have hcons : hexLine (head :: name) (first :: digits) =
      head :: hexLine name (first :: digits) := rfl
  rw [hskip, hcons, Reader.statement, if_neg hplain, ← hcons, keyValue_hexLine hname hdigits]
  · rfl
  · exact fun _ h => absurd h hbracket
  · exact hbracket

/-- **A line with a key and a hexadecimal integer** is a document that holds the integer. -/
theorem read_hexLine :
    read (hexLine (head :: name) (first :: digits)) =
      .ok [(.text (String.ofList (head :: name)),
        .int (.ofNat (hexNumber (first :: digits))))] := by
  -- A text without a carriage return is not changed by unifying its line ends.
  have hnot : ∀ c ∈ hexLine (head :: name) (first :: digits), c ≠ '\r' :=
    forall_mem_hexLine (fun c hc => ne_of_isKeyChar (hname c hc) rfl)
      (fun c hc => ne_of_isDigitIn (hdigits c hc) rfl) (by decide) (by decide) (by decide)
      (by decide) (by decide)
  unfold read
  rw [unifyLineEnds_eq fun h => hnot '\r' h rfl]
  dsimp only
  rw [Reader.statements, statement_hexLine hname hdigits]
  rfl

theorem ofUtf8_hexLine :
    Text.ofUtf8 (Text.asciiBytes (hexLine (head :: name) (first :: digits))) =
      .ok (hexLine (head :: name) (first :: digits)) :=
  Text.ofUtf8_asciiBytes (forall_mem_hexLine (fun c hc => toNat_lt_of_isKeyChar (hname c hc))
    (fun c hc => toNat_lt_of_isDigitIn (hdigits c hc)) (by decide) (by decide) (by decide)
    (by decide) (by decide))

end Line

end Toml

end SchemaMigration
