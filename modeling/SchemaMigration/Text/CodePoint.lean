/-!
# Texts of code points

An escape can name half of a surrogate pair, which is a code point but no character. A text that was
read with escapes is a list of code points; it is a list of characters unless a half stands in it.

Where characters are needed, another one is shown for a half: the replacement character, or a mark
that tells which half it is. A text that is shown in both ways has halves where the two differ.
-/

namespace SchemaMigration.Text

/-- A code point. -/
inductive CodePoint where
  | char (c : Char)
  /-- Half of a surrogate pair, and the character that is shown for it. -/
  | half (code : Nat) (shown : Char)
  deriving DecidableEq

namespace CodePoint

/-- The code point of a number, which must not be above that of the last character. -/
def ofCode (code : Nat) : CodePoint :=
  if 0xd800 ≤ code ∧ code < 0xe000 then half code '\ufffd' else char (Char.ofNat code)

/-- The number of a code point. -/
def code : CodePoint → Nat
  | char c => c.toNat
  | half code _ => code

/-- The character that a code point is shown as. -/
def shown : CodePoint → Char
  | char c => c
  | half _ c => c

/-- Is it half of a surrogate pair? -/
def isHalf : CodePoint → Bool
  | char _ => false
  | half _ _ => true

/-- The mark of a half: a character for private use, a different one for each half. -/
def markOf (code : Nat) : Char := Char.ofNat (code + (0xf0000 - 0xd800))

/-- The code of the half that has the given mark. -/
def codeOfMark (mark : Char) : Nat := mark.toNat - (0xf0000 - 0xd800)

/-- The code point with its mark shown, if it is a half. -/
def marked : CodePoint → CodePoint
  | char c => char c
  | half code _ => half code (markOf code)

end CodePoint

/-- The code points of characters. -/
def ofChars (cs : List Char) : List CodePoint := cs.map .char

/-- The characters of a text in which no half stands. -/
def chars? : List CodePoint → Option (List Char)
  | [] => some []
  | .char c :: rest => (chars? rest).map (c :: ·)
  | .half _ _ :: _ => none

@[simp] theorem chars?_ofChars (cs : List Char) : chars? (ofChars cs) = some cs := by
  induction cs with
  | nil => rfl
  | cons c cs ih => simp_all [ofChars, chars?]

/-- The code points of a text that is shown as usual and with its halves marked. -/
def tellApart (shown marked : String) : List CodePoint :=
  List.zipWith (fun c mark => if c = mark then .char c else .half (CodePoint.codeOfMark mark) c)
    shown.toList marked.toList

/-- Does the text consist of the given characters? -/
def isChars (cs : String) (text : List CodePoint) : Bool :=
  chars? text = some cs.toList

end SchemaMigration.Text
