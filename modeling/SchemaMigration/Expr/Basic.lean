import SchemaMigration.Identifier

/-!
# Expressions of statements

An expression is a piece of a statement: a literal piece of SQL, an identifier, an operator between
two expressions, a column with its type and constraints, the body of a table, or an action of an
`alter` statement. Columns are a type of their own, because table bodies and added columns hold
nothing else.
-/

namespace SchemaMigration

mutual

/-- A piece of a statement. -/
inductive Expr where
  /-- Text that is written as it is: a value, keywords, any fragment. -/
  | literal (text : String)
  /-- A column or a table that is referred to by name. -/
  | ident (identifier : Identifier)
  /-- Two expressions with an operator between them. -/
  | binary (left : Expr) (operator : String) (right : Expr)
  /-- The assignment `field = value` of an update or of a conflict clause. -/
  | assign (field : Identifier) (value : Expr)
  /-- A foreign key: the table, its column and what happens on delete and on update. -/
  | references (table : Identifier) (column onDelete onUpdate : String)
  /-- A column definition. -/
  | column (definition : Column)
  /-- The column definitions of a table, in order. -/
  | tableBody (columns : List Column)
  /-- The action `add column`. -/
  | addColumn (definition : Column) (ifNotExists : Bool)
  /-- The action `drop column`. -/
  | dropColumn (name : Identifier)
  /-- The action `add constraint`. -/
  | addConstraint (name : Identifier) (body : Expr)
  /-- The action `rename to`. -/
  | renameTo (newName : Identifier)

/-- A column definition: its name, its type and its constraints, in order. -/
inductive Column where
  | define (name dataType : Identifier) (constraints : List Expr)

end

/-- The name of a column, without the container that may qualify it. -/
def Column.baseName : Column → String
  | .define name _ _ => name.baseName

/-! ### Equality -/

mutual

/-- Are two expressions the same, node by node? -/
def Expr.same : Expr → Expr → Bool
  | .literal a, .literal b => a = b
  | .ident a, .ident b => a = b
  | .binary l o r, .binary l' o' r' => l.same l' && decide (o = o') && r.same r'
  | .assign f v, .assign f' v' => decide (f = f') && v.same v'
  | .references t c d u, .references t' c' d' u' =>
    decide (t = t') && decide (c = c') && decide (d = d') && decide (u = u')
  | .column c, .column c' => c.same c'
  | .tableBody cs, .tableBody cs' => Column.sameList cs cs'
  | .addColumn c b, .addColumn c' b' => c.same c' && decide (b = b')
  | .dropColumn n, .dropColumn n' => n = n'
  | .addConstraint n e, .addConstraint n' e' => decide (n = n') && e.same e'
  | .renameTo n, .renameTo n' => n = n'
  | _, _ => false

/-- Are two column definitions the same? -/
def Column.same : Column → Column → Bool
  | .define n t cs, .define n' t' cs' =>
    decide (n = n') && decide (t = t') && Expr.sameList cs cs'

/-- Are two lists of expressions the same, member by member? -/
def Expr.sameList : List Expr → List Expr → Bool
  | [], [] => true
  | e :: es, e' :: es' => e.same e' && Expr.sameList es es'
  | _, _ => false

/-- Are two lists of column definitions the same, member by member? -/
def Column.sameList : List Column → List Column → Bool
  | [], [] => true
  | c :: cs, c' :: cs' => c.same c' && Column.sameList cs cs'
  | _, _ => false

end

mutual

theorem Expr.same_iff : ∀ a b : Expr, a.same b = true ↔ a = b
  | .literal _, b => by cases b <;> simp [Expr.same]
  | .ident _, b => by cases b <;> simp [Expr.same]
  | .binary l o r, b => by
    cases b <;> simp [Expr.same, Expr.same_iff l, Expr.same_iff r, and_assoc]
  | .assign f v, b => by cases b <;> simp [Expr.same, Expr.same_iff v]
  | .references .., b => by cases b <;> simp [Expr.same, and_assoc]
  | .column c, b => by cases b <;> simp [Expr.same, Column.same_iff c]
  | .tableBody cs, b => by cases b <;> simp [Expr.same, Column.sameList_iff cs]
  | .addColumn c _, b => by cases b <;> simp [Expr.same, Column.same_iff c]
  | .dropColumn _, b => by cases b <;> simp [Expr.same]
  | .addConstraint n e, b => by cases b <;> simp [Expr.same, Expr.same_iff e]
  | .renameTo _, b => by cases b <;> simp [Expr.same]

theorem Column.same_iff : ∀ a b : Column, a.same b = true ↔ a = b
  | .define _ _ cs, .define _ _ cs' => by
    simp [Column.same, Expr.sameList_iff cs cs', and_assoc]

theorem Expr.sameList_iff : ∀ as bs : List Expr, Expr.sameList as bs = true ↔ as = bs
  | [], bs => by cases bs <;> simp [Expr.sameList]
  | e :: es, bs => by
    cases bs <;> simp [Expr.sameList, Expr.same_iff e, Expr.sameList_iff es]

theorem Column.sameList_iff : ∀ as bs : List Column, Column.sameList as bs = true ↔ as = bs
  | [], bs => by cases bs <;> simp [Column.sameList]
  | c :: cs, bs => by
    cases bs <;> simp [Column.sameList, Column.same_iff c, Column.sameList_iff cs]

end

instance : DecidableEq Expr := fun a b => decidable_of_iff _ (Expr.same_iff a b)

instance : DecidableEq Column := fun a b => decidable_of_iff _ (Column.same_iff a b)

end SchemaMigration
