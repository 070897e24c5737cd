/-!
# Text as bytes

Files hold bytes. They are text only if they are well-formed UTF-8: no overlong forms, no surrogates
and nothing above U+10FFFF. Where they are not, the fault names the bytes that start a character
which is not completed.
-/

namespace SchemaMigration.Text

/-- Why bytes are no text. -/
inductive Utf8Fault.Reason where
  /-- No character starts with the byte. -/
  | badStart
  /-- The character that the bytes start does not go on with the byte behind them. -/
  | badContinuation
  /-- The last character is not complete. -/
  | cutOff
  deriving DecidableEq

/-- A fault: its reason, where the bytes at fault start, and those bytes. -/
structure Utf8Fault where
  reason : Utf8Fault.Reason
  offset : Nat
  bytes : List UInt8
  deriving DecidableEq

/-- A character of which some bytes are still missing: the offset of its first byte, the bytes so
far, the value of their bits, the number of missing bytes and the range of the next one. -/
structure PartialChar where
  offset : Nat
  bytes : List UInt8
  code : Nat
  missing : Nat
  low : UInt8
  high : UInt8

/-- What a byte starts: a whole character, a partial one, or none. -/
def startChar? (offset : Nat) (byte : UInt8) : Option (Char ⊕ PartialChar) :=
  let longer (missing base : Nat) (low high : UInt8) : Option (Char ⊕ PartialChar) :=
    some (.inr ⟨offset, [byte], byte.toNat - base, missing, low, high⟩)
  if byte < 0x80 then some (.inl (Char.ofNat byte.toNat))
  else if byte < 0xC2 then none
  else if byte < 0xE0 then longer 1 0xC0 0x80 0xBF
  else if byte = 0xE0 then longer 2 0xE0 0xA0 0xBF
  else if byte = 0xED then longer 2 0xE0 0x80 0x9F
  else if byte < 0xF0 then longer 2 0xE0 0x80 0xBF
  else if byte = 0xF0 then longer 3 0xF0 0x90 0xBF
  else if byte < 0xF4 then longer 3 0xF0 0x80 0xBF
  else if byte = 0xF4 then longer 3 0xF0 0x80 0x8F
  else none

/-- The characters that bytes encode, from the given offset on, and the last one if it is not
complete. -/
def decodeUtf8 :
    Nat → Option PartialChar → List UInt8 → Except Utf8Fault (List Char × Option PartialChar)
  | _, part, [] => .ok ([], part)
  | offset, none, byte :: rest =>
    match startChar? offset byte with
    | none => .error ⟨.badStart, offset, [byte]⟩
    | some (.inl c) => do
      let (more, part) ← decodeUtf8 (offset + 1) none rest
      return (c :: more, part)
    | some (.inr part) => decodeUtf8 (offset + 1) (some part) rest
  | offset, some part, byte :: rest =>
    if part.low ≤ byte ∧ byte ≤ part.high then
      let code := part.code * 64 + (byte.toNat - 0x80)
      if part.missing ≤ 1 then do
        let (more, part) ← decodeUtf8 (offset + 1) none rest
        return (Char.ofNat code :: more, part)
      else
        let part := ⟨part.offset, part.bytes ++ [byte], code, part.missing - 1, 0x80, 0xBF⟩
        decodeUtf8 (offset + 1) (some part) rest
    else .error ⟨.badContinuation, part.offset, part.bytes⟩

/-- The characters that bytes encode; the last one has to be complete. -/
def ofUtf8 (bytes : List UInt8) : Except Utf8Fault (List Char) := do
  match ← decodeUtf8 0 none bytes with
  | (chars, none) => return chars
  | (_, some part) => throw ⟨.cutOff, part.offset, part.bytes⟩

/-- The bytes that encode a text. -/
def toUtf8 (text : String) : List UInt8 :=
  text.toUTF8.data.toList

end SchemaMigration.Text
