import SchemaMigration.Text.Quoted

/-!
# Writing texts out

A text that is written out is encoded as UTF-8, which has no form for half of a surrogate pair. The
fault that keeps a text from being encoded names the first halves in it, as many as stand in a row.
-/

namespace SchemaMigration.Text

/-- Why a text cannot be encoded: how many code points stand in front of its first half, and the
codes of the halves in a row from there on. -/
structure EncodingFault where
  position : Nat
  codes : List Nat
  deriving DecidableEq

namespace EncodingFault

/-- The fault of a text that has halves. -/
def ofCodePoints (text : List CodePoint) : EncodingFault :=
  let before := text.takeWhile fun point => !point.isHalf
  let halves := (text.drop before.length).takeWhile (·.isHalf)
  ⟨before.length, halves.map (·.code)⟩

/-- The halves at fault and where they are. -/
def place (fault : EncodingFault) : String :=
  match fault.codes with
  | [code] => s!"character '{String.ofList (escapedCode code)}' in position {fault.position}"
  | codes => s!"characters in position {fault.position}-{fault.position + codes.length - 1}"

/-- The text that reports a fault. -/
def message (fault : EncodingFault) : String :=
  s!"'utf-8' codec can't encode {fault.place}: surrogates not allowed"

end EncodingFault

/-- The text, if it can be encoded: it must be the same when the halves in it are marked. If it is
not, the two together tell where the halves are in what is left of the text. -/
def encode (leave : String → String) (text : String) (marked : Option String) :
    Except EncodingFault String :=
  if marked = some text then .ok text
  else .error (.ofCodePoints (tellApart (leave text) (leave (marked.getD ""))))

variable {leave : String → String} {text output : String} {marked : Option String}

theorem encode_eq_ok_iff :
    encode leave text marked = .ok output ↔ marked = some text ∧ output = text := by
  unfold encode
  split
  · next h => exact ⟨fun htext => ⟨h, (Except.ok.inj htext).symm⟩, fun ⟨_, h⟩ => by rw [h]⟩
  · next h => exact ⟨nofun, fun ⟨hmarked, _⟩ => absurd hmarked h⟩

theorem encode_of_eq_some (h : marked = some text) : encode leave text marked = .ok text :=
  encode_eq_ok_iff.mpr ⟨h, rfl⟩

end SchemaMigration.Text
