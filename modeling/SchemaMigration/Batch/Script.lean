import SchemaMigration.Document.Statement
import SchemaMigration.Log
import SchemaMigration.Statement.Render

/-!
# The script of a batch

One terminated statement per line.
-/

namespace SchemaMigration

/-- What ends a statement of a script unless something else is asked for. -/
def defaultTerminator : String := ";"

/-- The line of one statement with the given SQL text. -/
def scriptLine (terminator sql : String) : String :=
  sql ++ terminator ++ "\n"

/-- The script of a batch whose statements are rendered by the given function, or the first
failure of that function. -/
def Batch.scriptWith {ε : Type} (render : Statement → Logged ε String) (terminator : String) :
    Batch → Logged ε String
  | [] => return ""
  | statement :: rest => do
    let sql ← render statement
    return scriptLine terminator sql ++ (← scriptWith render terminator rest)

/-- The script of a batch. -/
def Batch.script (terminator : String) (batch : Batch) : String :=
  String.join (batch.map fun statement => scriptLine terminator statement.render)

end SchemaMigration
