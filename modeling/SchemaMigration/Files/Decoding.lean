import SchemaMigration.Number.Double
import SchemaMigration.Text.Newline
import SchemaMigration.Text.Quoted
import SchemaMigration.Text.Utf8

/-!
# The text of a file

A file is decoded as a whole, or piece by piece as it is read. A piece is a number of characters;
for it, as many bytes are decoded at once as are likely to be needed, but no fewer than a block. The
place that a fault names is counted from the start of what was decoded at once.
-/

namespace SchemaMigration.Text

/-- The words for a reason. -/
def Utf8Fault.Reason.words : Utf8Fault.Reason → String
  | badStart => "invalid start byte"
  | badContinuation => "invalid continuation byte"
  | cutOff => "unexpected end of data"

/-- The bytes at fault and where they are. -/
def Utf8Fault.place (fault : Utf8Fault) : String :=
  match fault.bytes with
  | [byte] => s!"byte 0x{String.ofList (hex 2 byte.toNat)} in position {fault.offset}"
  | bytes => s!"bytes in position {fault.offset}-{fault.offset + bytes.length - 1}"

/-- The text that reports a fault. -/
def Utf8Fault.message (fault : Utf8Fault) : String :=
  s!"'utf-8' codec can't decode {fault.place}: {fault.reason.words}"

/-! ### Piece by piece -/

/-- The least number of bytes that are decoded at once. -/
def blockSize : Nat := 8192

/-- A file that is being read. -/
structure Decoding where
  /-- The bytes that were not decoded yet. -/
  bytes : List UInt8
  /-- The bytes of a character that is not complete yet. -/
  carried : List UInt8
  /-- Was a carriage return decoded that may be half of a line end? -/
  heldReturn : Bool
  /-- The characters that were decoded but not handed out. -/
  chars : List Char
  /-- How many bytes a character took in what was decoded last; zero if there was none. -/
  density : Double

namespace Decoding

/-- The start of a file. -/
def start (bytes : List UInt8) : Decoding := ⟨bytes, [], false, [], Double.zero false⟩

/-- How many bytes are decoded for a number of characters. -/
def blockFor (d : Decoding) (count : Nat) : Nat :=
  match d.density.mul (Double.ofRatio false count 1) with
  | .finite _ mantissa exponent =>
    let (num, den) := Double.ratio mantissa exponent
    max blockSize (num / den)
  | _ => blockSize

/-- Decodes as much as is likely to hold a number of characters. At the end of the file, nothing may
be left incomplete. -/
def decodeMore (d : Decoding) (count : Nat) : Except Utf8Fault Decoding := do
  let block := d.bytes.take (d.blockFor count)
  let isLast := block.isEmpty
  let (decoded, part) ← decodeUtf8 0 none (d.carried ++ block)
  if isLast then
    if let some part := part then throw ⟨.cutOff, part.offset, part.bytes⟩
  let decoded := if d.heldReturn then '\r' :: decoded else decoded
  let heldReturn := !isLast && decoded.getLast? = some '\r'
  let chars := unifyNewlines (if heldReturn then decoded.dropLast else decoded)
  let density :=
    if chars.isEmpty then Double.zero false else Double.ofRatio false block.length chars.length
  return ⟨d.bytes.drop block.length, (part.map (·.bytes)).getD [], heldReturn, chars, density⟩

/-- A number of characters, or fewer at the end of the file. -/
def take : Nat → Nat → Decoding → Except Utf8Fault (List Char × Decoding)
  | 0, _, d => .ok ([], d)
  | fuel + 1, count, d => do
    let first := d.chars.take count
    let d := { d with chars := d.chars.drop count }
    if first.length = count then return (first, d)
    else
      let isLast := d.bytes.isEmpty
      let d ← d.decodeMore (count - first.length)
      if isLast && d.chars.isEmpty then return (first, d)
      else
        let (more, d) ← take fuel (count - first.length) d
        return (first ++ more, d)

/-- The pieces of the rest of a file, and the fault that ends them. -/
def pieces (size : Nat) : Nat → Decoding → List (List Char) × Option Utf8Fault
  | 0, _ => ([], none)
  | fuel + 1, d =>
    match d.take (d.bytes.length + 3) size with
    | .error fault => ([], some fault)
    | .ok ([], _) => ([], none)
    | .ok (piece, d) =>
      let (more, fault) := pieces size fuel d
      (piece :: more, fault)

end Decoding

/-- The pieces of a file, each of the given number of characters, and the fault that ends them. -/
def piecesOf (size : Nat) (bytes : List UInt8) : List (List Char) × Option Utf8Fault :=
  (Decoding.start bytes).pieces size (bytes.length + 2)

end SchemaMigration.Text
