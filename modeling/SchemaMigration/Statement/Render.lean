import SchemaMigration.Expr.Render
import SchemaMigration.Statement.Basic

/-!
# The SQL text of statements

Where an update or a select has no condition, one that always holds is written. An insert leaves the
alias of its table out. The body of a created constraint names its own table, so neither the kind
nor the name of the constraint is written in front of it.
-/

namespace SchemaMigration

/-- The condition that is written when a statement has none. -/
def alwaysTrue : String := "1 = 1"

/-- The SQL text of a condition, or of the one that always holds. -/
def renderCondition (condition : Option Expr) : String :=
  (condition.map Expr.render).getD alwaysTrue

/-- The SQL text of a table reference: the table and its alias. -/
def TableRef.render (ref : TableRef) : String :=
  words [ref.table.render, ref.shortName]

/-- The SQL text of a conflict clause. -/
def ConflictClause.render (clause : ConflictClause) : String :=
  words ["on conflict", clause.cause.render, "do update set",
    commaList (Expr.renderList clause.assignments)]

/-- The SQL text of a select. -/
def Select.render (query : Select) : String :=
  words ["select", commaList (Expr.renderList query.columns), "from", query.source.render, "where",
    renderCondition query.condition]

/-- The SQL text of a statement. -/
def Statement.render : Statement → String
  | .alter target name action => words ["alter", target.noun, name.render, action.render]
  | .create target name body ifNotExists =>
    let bodyText := (body.map Expr.render).getD ""
    if target = .constraint then words ["create", bodyText]
    else
      words ["create", target.noun, if ifNotExists then "if not exists" else "", name.render,
        bodyText]
  | .drop target name => words ["drop", target.noun, name.render]
  | .insert table values onConflict =>
    words ["insert into", table.table.render, "(" ++ commaList (values.map (·.1)) ++ ")", "values",
      "(" ++ commaList (values.map (·.2.render)) ++ ")",
      (onConflict.map ConflictClause.render).getD ""]
  | .update table assignments condition =>
    words ["update", table.render, "set", commaList (Expr.renderList assignments), "where",
      renderCondition condition]
  | .select query => query.render
  | .withSelect name inner outer =>
    words ["with", name, "as", "(" ++ inner.render ++ ")", outer.render]

end SchemaMigration
