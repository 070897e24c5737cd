import SchemaMigration.Files.Decoding
import SchemaMigration.Yaml.Character
import SchemaMigration.Yaml.Fault

/-!
# YAML text in bytes

A text is read in pieces, and a piece only when a character of it is needed. What cannot be read is
therefore a fault of the text only from that piece on: up to there its tokens can be told.
-/

namespace SchemaMigration.Yaml

/-- A text as far as it can be read, and why it cannot be read further. -/
structure Source where
  chars : List Char
  unread : Option Fault

namespace Source

/-- The number of characters in a piece; two of them are read at the start. -/
def pieceSize : Nat := 4096

/-- The text of pieces that are looked at one by one. -/
def ofPieces (fault : Option Fault) : List (List Char) → Source
  | [] => ⟨[], fault⟩
  | piece :: rest =>
    if piece.all isAllowed then
      let more := ofPieces fault rest
      ⟨piece ++ more.chars, more.unread⟩
    else ⟨[], some .malformed⟩

/-- The text in bytes. -/
def ofBytes (bytes : List UInt8) : Source :=
  let (pieces, fault) := Text.piecesOf pieceSize bytes
  let fault := fault.map .undecodable
  match pieces with
  | first :: second :: rest => ofPieces fault ((first ++ second) :: rest)
  | few => if fault.isSome then ⟨[], fault⟩ else ofPieces none few

end Source

end SchemaMigration.Yaml
