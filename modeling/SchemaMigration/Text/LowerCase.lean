import SchemaMigration.Text.CodePoint
import SchemaMigration.Text.LowerCase.Table

/-!
# The lower-case form of a text, for all of Unicode

Each character has a form of its own, but for the capital sigma, which at the end of a word becomes
the final sigma.
-/

namespace SchemaMigration.Text

/-- The code point of the small form that a run gives to a code point, if the run holds it. -/
def CaseRun.lower? (run : CaseRun) (code : Nat) : Option Nat :=
  if run.first ≤ code ∧ code ≤ run.last ∧ (code - run.first) % run.step = 0 then
    some (code + run.offset).toNat
  else none

/-- The lower-case form of a character by itself; one character has a form of two. -/
def lowerChar (c : Char) : List Char :=
  if c.toNat < 0x80 then [c.toLower]
  else if c = '\u0130' then ['i', '\u0307']
  else
    match caseRuns.findSome? (·.lower? c.toNat) with
    | some code => [Char.ofNat code]
    | none => [c]

/-- Is the first character that counts a cased letter? -/
def startsWithCased (text : List Char) : Bool :=
  match text.dropWhile (inRanges caseIgnorableRanges) with
  | [] => false
  | c :: _ => inRanges casedRanges c

/-- The small form of a capital sigma: the final sigma behind a letter at the end of a word. What
stands in front is given with its last character first. -/
def sigmaForm (before after : List Char) : Char :=
  if startsWithCased before && !startsWithCased after then 'ς' else 'σ'

/-- The lower-case form of a text; `before` is what stands in front of it, last character first. -/
def lowerFrom (before : List Char) : List Char → List Char
  | [] => []
  | c :: rest =>
    (if c = 'Σ' then [sigmaForm before rest] else lowerChar c) ++ lowerFrom (c :: before) rest

/-- The lower-case form of a text. -/
def lower (text : String) : String :=
  String.ofList (lowerFrom [] text.toList)

/-- The characters in front of the first half of a surrogate pair. -/
def charsInFront : List CodePoint → List Char
  | .char c :: rest => c :: charsInFront rest
  | _ => []

/-- The lower-case form of a text of code points; `before` is what stands in front of it, last
character first. A half of a surrogate pair ends a word. -/
def lowerCodesFrom (before : List Char) : List CodePoint → List CodePoint
  | [] => []
  | .half code shown :: rest => .half code shown :: lowerCodesFrom [] rest
  | .char c :: rest =>
    ofChars (if c = 'Σ' then [sigmaForm before (charsInFront rest)] else lowerChar c) ++
      lowerCodesFrom (c :: before) rest

/-- The lower-case form of a text of code points. -/
def lowerCodePoints (text : List CodePoint) : List CodePoint := lowerCodesFrom [] text

end SchemaMigration.Text
