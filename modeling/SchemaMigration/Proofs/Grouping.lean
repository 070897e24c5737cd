import SchemaMigration.Node
import SchemaMigration.Proofs.Spacing

/-!
# How the parts of a join are grouped does not show

Renderers are nested: a part is joined from parts of its own, and its text is one part of the join
around it. A join leaves out what is absent or empty. A group of which everything is left out has an
empty text (`joinNonEmpty_eq_empty_iff`), so it is left out itself; the text of any other group
begins and ends with a part that is not empty, so the separators around it are those that its parts
would have had. Hence a group can be dissolved wherever it stands (`joinNonEmpty_group`), whatever
the separator is.

Dissolving all groups of a node leaves one flat list of tokens, and the text of the node is their
join (`Node.render_eq_words_tokens`).
-/

namespace SchemaMigration

open Text

/-! ## Groups of parts -/

/-- The texts of the parts that are neither absent nor empty. -/
def presentParts (parts : List (Option String)) : List String :=
  (parts.filterMap id).filter (· ≠ "")

theorem joinNonEmpty_eq (separator : String) (parts : List (Option String)) :
    joinNonEmpty separator parts = separator.intercalate (presentParts parts) := rfl

theorem presentParts_append (before after : List (Option String)) :
    presentParts (before ++ after) = presentParts before ++ presentParts after := by
  simp [presentParts]

theorem presentParts_singleton {text : String} (h : text ≠ "") :
    presentParts [some text] = [text] := by
  simp [presentParts, h]

theorem mem_presentParts_iff {parts : List (Option String)} {text : String} :
    text ∈ presentParts parts ↔ some text ∈ parts ∧ text ≠ "" := by
  simp [presentParts]

theorem presentParts_eq_nil_iff {parts : List (Option String)} :
    presentParts parts = [] ↔ ∀ part ∈ parts, part = none ∨ part = some "" := by
  rw [List.eq_nil_iff_forall_not_mem]
  -- A part takes no part in the join if it is absent or empty, and only then.
  constructor
  · intro h part hpart
    cases part with
    | none => exact .inl rfl
    | some text =>
      by_cases hempty : text = ""
      · exact .inr (congrArg some hempty)
      · exact absurd (mem_presentParts_iff.mpr ⟨hpart, hempty⟩) (h text)
  · intro h text htext
    obtain ⟨hmem, hne⟩ := mem_presentParts_iff.mp htext
    rcases h (some text) hmem with hnone | hempty
    · cases hnone
    · exact hne (Option.some.inj hempty)

theorem joinNonEmpty_ne_empty {separator : String} {parts : List (Option String)}
    (h : presentParts parts ≠ []) : joinNonEmpty separator parts ≠ "" := by
  obtain ⟨first, rest, hparts⟩ := List.exists_cons_of_ne_nil h
  have hfirst : first ∈ presentParts parts := by
    rw [hparts]
    exact List.mem_cons_self
  rw [joinNonEmpty_eq, hparts]
  exact intercalate_ne_empty (mem_presentParts_iff.mp hfirst).2

/-- A joined text is empty only if nothing took part in it. -/
theorem joinNonEmpty_eq_empty_iff {separator : String} {parts : List (Option String)} :
    joinNonEmpty separator parts = "" ↔ ∀ part ∈ parts, part = none ∨ part = some "" := by
  rw [← presentParts_eq_nil_iff]
  constructor
  · intro hempty
    by_contra hpresent
    exact joinNonEmpty_ne_empty hpresent hempty
  · intro hnil
    rw [joinNonEmpty_eq, hnil, String.intercalate_nil]

/-- The joined text of some parts stands for all of them in a join with the same separator. -/
theorem intercalate_group {separator : String} (before after : List String) {group : List String}
    (h : group ≠ []) :
    separator.intercalate (before ++ separator.intercalate group :: after) =
      separator.intercalate (before ++ (group ++ after)) := by
  -- What stands behind the group is told apart from what stands in front of it.
  have hafter : separator.intercalate (separator.intercalate group :: after) =
      separator.intercalate (group ++ after) := by
    by_cases hnil : after = []
    · rw [hnil, String.intercalate_singleton, List.append_nil]
    · rw [String.intercalate_cons_of_ne_nil hnil, String.intercalate_append_of_ne_nil h hnil]
  by_cases hnil : before = []
  · rw [hnil, List.nil_append, List.nil_append, hafter]
  · have hne : group ++ after ≠ [] := List.append_ne_nil_of_left_ne_nil h after
    rw [String.intercalate_append_of_ne_nil hnil (List.cons_ne_nil _ _), hafter,
      String.intercalate_append_of_ne_nil hnil hne]

/-- **A group can be dissolved.** Parts that were joined by themselves may as well stand in the join
around them one by one. -/
theorem joinNonEmpty_group (separator : String) (before group after : List (Option String)) :
    joinNonEmpty separator (before ++ some (joinNonEmpty separator group) :: after) =
      joinNonEmpty separator (before ++ (group ++ after)) := by
  -- Both joins have the same parts in front and behind; only the group differs.
  have hgrouped : presentParts (before ++ some (joinNonEmpty separator group) :: after) =
      presentParts before ++ (presentParts [some (joinNonEmpty separator group)] ++
        presentParts after) := by
    rw [presentParts_append, ← List.singleton_append, presentParts_append]
  have hdissolved : presentParts (before ++ (group ++ after)) =
      presentParts before ++ (presentParts group ++ presentParts after) := by
    rw [presentParts_append, presentParts_append]
  rw [joinNonEmpty_eq separator (before ++ (group ++ after)), hdissolved, joinNonEmpty_eq, hgrouped]
  by_cases hgroup : presentParts group = []
  · -- Nothing of the group takes part, and neither does its empty text.
    have hempty : joinNonEmpty separator group = "" := by
      rw [joinNonEmpty_eq, hgroup, String.intercalate_nil]
    have hnone : presentParts [some (joinNonEmpty separator group)] = [] := by
      rw [hempty]
      rfl
    rw [hnone, hgroup]
  -- What is left of the group is one text, which is not empty.
  · have hone : presentParts [some (joinNonEmpty separator group)] =
        [separator.intercalate (presentParts group)] := by
      rw [presentParts_singleton (joinNonEmpty_ne_empty hgroup), joinNonEmpty_eq]
    rw [hone, List.singleton_append, intercalate_group _ _ hgroup]

theorem joinNonEmpty_append (separator : String) (xs ys : List (Option String)) :
    joinNonEmpty separator (xs ++ ys) =
      joinNonEmpty separator
        [some (joinNonEmpty separator xs), some (joinNonEmpty separator ys)] := by
  have hfirst := joinNonEmpty_group separator [] xs [some (joinNonEmpty separator ys)]
  have hsecond := joinNonEmpty_group separator xs ys []
  rw [List.append_nil] at hsecond
  rw [← hsecond]
  exact hfirst.symm

/-! ## Words -/

theorem words_singleton (text : String) : words [text] = text := by
  by_cases hempty : text = ""
  · rw [hempty]
    rfl
  · simp [words, joinNonEmpty, hempty]

theorem words_group (before group after : List String) :
    words (before ++ words group :: after) = words (before ++ (group ++ after)) := by
  have hgroup := joinNonEmpty_group " " (before.map some) (group.map some) (after.map some)
  simpa [words] using hgroup

/-- A group at the end, where there is nothing behind it. -/
theorem words_last (before group : List String) :
    words (before ++ [words group]) = words (before ++ group) := by
  rw [words_group, List.append_nil]

/-- A group somewhere and another one at the end. -/
theorem words_group_last (before group between last : List String) :
    words (before ++ words group :: (between ++ [words last])) =
      words (before ++ (group ++ (between ++ last))) := by
  have hlast := words_last (before ++ group ++ between) last
  rw [words_group]
  simpa using hlast

/-! ## Tokens of expressions

A token is a text that is not joined from others by spaces alone. What stands in parentheses is one
token with them, and so is a list with commas. -/

mutual

/-- The tokens of an expression, in order. -/
def Expr.tokens : Expr → List String
  | .literal text => [text]
  | .ident identifier => [identifier.render]
  | .binary left operator right => left.tokens ++ operator :: right.tokens
  | .assign field value => [field.render ++ " = " ++ value.render]
  | .references table column onDelete onUpdate =>
    ["references", table.render, enclosedUnlessEmpty "(" column ")",
      enclosedUnlessEmpty "on delete " onDelete "", enclosedUnlessEmpty "on update " onUpdate ""]
  | .column definition => definition.tokens
  | .tableBody columns => ["(" ++ commaList (Column.renderList columns) ++ ")"]
  | .addColumn definition ifNotExists =>
    ["add column", if ifNotExists then "if not exists" else ""] ++ definition.tokens
  | .dropColumn name => ["drop column " ++ name.render]
  | .addConstraint name body => ["add constraint", name.render] ++ body.tokens
  | .renameTo newName => ["rename to " ++ newName.render]

/-- The tokens of a column definition, in order. -/
def Column.tokens : Column → List String
  | .define name dataType constraints =>
    [name.render, dataType.render] ++ Expr.tokensOfList constraints

/-- The tokens of several expressions, in order. -/
def Expr.tokensOfList : List Expr → List String
  | [] => []
  | first :: rest => first.tokens ++ Expr.tokensOfList rest

end

mutual

/-- Induction over the tree: the text of a part is the join of its own tokens, so the part is a
group that can be dissolved. -/
theorem Expr.render_eq_words_tokens : ∀ e : Expr, e.render = words e.tokens
  | .literal text => by
    rw [Expr.render, Expr.tokens, words_singleton]
  | .ident identifier => by
    rw [Expr.render, Expr.tokens, words_singleton]
  -- The operator stands between the two groups, so the first of them is dissolved in the middle.
  | .binary left operator right => by
    rw [Expr.render, Expr.tokens, left.render_eq_words_tokens, right.render_eq_words_tokens]
    exact words_group_last [] left.tokens [operator] right.tokens
  | .assign field value => by
    rw [Expr.render, Expr.tokens, words_singleton]
  | .references table column onDelete onUpdate => by
    rw [Expr.render, Expr.tokens]
  | .column definition => by
    rw [Expr.render, Expr.tokens, definition.render_eq_words_tokens]
  | .tableBody columns => by
    rw [Expr.render, Expr.tokens, words_singleton]
  | .addColumn definition ifNotExists => by
    rw [Expr.render, Expr.tokens, definition.render_eq_words_tokens]
    exact words_last ["add column", if ifNotExists then "if not exists" else ""] definition.tokens
  | .dropColumn name => by
    rw [Expr.render, Expr.tokens, words_singleton]
  | .addConstraint name body => by
    rw [Expr.render, Expr.tokens, body.render_eq_words_tokens]
    exact words_last ["add constraint", name.render] body.tokens
  | .renameTo newName => by
    rw [Expr.render, Expr.tokens, words_singleton]

theorem Column.render_eq_words_tokens : ∀ c : Column, c.render = words c.tokens
  | .define name dataType constraints => by
    rw [Column.render, Column.tokens]
    exact Expr.words_renderList [name.render, dataType.render] constraints

/-- The texts of several expressions behind others: each of them is a group. -/
theorem Expr.words_renderList : ∀ (before : List String) (es : List Expr),
    words (before ++ Expr.renderList es) = words (before ++ Expr.tokensOfList es)
  | _, [] => by rw [Expr.renderList, Expr.tokensOfList]
  | before, first :: rest => by
    have hfirst := words_group before first.tokens (Expr.renderList rest)
    have hrest := Expr.words_renderList (before ++ first.tokens) rest
    rw [Expr.renderList, Expr.tokensOfList, first.render_eq_words_tokens, hfirst,
      ← List.append_assoc, hrest, List.append_assoc]

end

/-! ## Tokens of statements -/

/-- The tokens of a condition, or of the one that always holds. -/
def conditionTokens (condition : Option Expr) : List String :=
  (condition.map Expr.tokens).getD [alwaysTrue]

/-- The tokens of a table reference. -/
def TableRef.tokens (ref : TableRef) : List String := [ref.table.render, ref.shortName]

/-- The tokens of a conflict clause. -/
def ConflictClause.tokens (clause : ConflictClause) : List String :=
  ["on conflict"] ++ (clause.cause.tokens ++
    ["do update set", commaList (Expr.renderList clause.assignments)])

/-- The tokens of a select. -/
def Select.tokens (query : Select) : List String :=
  ["select", commaList (Expr.renderList query.columns), "from"] ++ (query.source.tokens ++
    (["where"] ++ conditionTokens query.condition))

/-- The tokens of a statement, in order. -/
def Statement.tokens : Statement → List String
  | .alter target name action => ["alter", target.noun, name.render] ++ action.tokens
  | .create target name body ifNotExists =>
    let bodyTokens := (body.map Expr.tokens).getD []
    if target = .constraint then "create" :: bodyTokens
    else
      ["create", target.noun, if ifNotExists then "if not exists" else "", name.render] ++
        bodyTokens
  | .drop target name => ["drop", target.noun, name.render]
  | .insert table values onConflict =>
    ["insert into", table.table.render, "(" ++ commaList (values.map (·.1)) ++ ")", "values",
      "(" ++ commaList (values.map (·.2.render)) ++ ")"] ++
      (onConflict.map ConflictClause.tokens).getD []
  | .update table assignments condition =>
    ["update"] ++ (table.tokens ++
      (["set", commaList (Expr.renderList assignments), "where"] ++ conditionTokens condition))
  | .select query => query.tokens
  | .withSelect name inner outer =>
    ["with", name, "as", "(" ++ inner.render ++ ")"] ++ outer.tokens

theorem renderCondition_eq_words_tokens (condition : Option Expr) :
    renderCondition condition = words (conditionTokens condition) := by
  cases condition with
  | none => rfl
  | some e => exact e.render_eq_words_tokens

theorem TableRef.render_eq_words_tokens (ref : TableRef) : ref.render = words ref.tokens := rfl

theorem ConflictClause.render_eq_words_tokens (clause : ConflictClause) :
    clause.render = words clause.tokens := by
  rw [ConflictClause.render, clause.cause.render_eq_words_tokens]
  exact words_group ["on conflict"] clause.cause.tokens
    ["do update set", commaList (Expr.renderList clause.assignments)]

theorem Select.render_eq_words_tokens (query : Select) : query.render = words query.tokens := by
  rw [Select.render, query.source.render_eq_words_tokens, renderCondition_eq_words_tokens]
  exact words_group_last ["select", commaList (Expr.renderList query.columns), "from"]
    query.source.tokens ["where"] (conditionTokens query.condition)

/-- What is not there has the text of no tokens. -/
theorem getD_map_render_eq_words {α : Type} {render : α → String} {tokens : α → List String}
    (h : ∀ a, render a = words (tokens a)) (found : Option α) :
    (found.map render).getD "" = words ((found.map tokens).getD []) := by
  cases found with
  | none => rfl
  | some a => exact h a

theorem Statement.render_eq_words_tokens (s : Statement) : s.render = words s.tokens := by
  cases s with
  | alter target name action =>
    rw [Statement.render, action.render_eq_words_tokens]
    exact words_last ["alter", target.noun, name.render] action.tokens
  | create target name body ifNotExists =>
    -- A constraint is created without its name.
    rw [Statement.render, getD_map_render_eq_words Expr.render_eq_words_tokens, Statement.tokens]
    split
    · exact words_last ["create"] _
    · exact words_last ["create", target.noun, if ifNotExists then "if not exists" else "",
        name.render] _
  | drop target name => rfl
  | insert table values onConflict =>
    rw [Statement.render, getD_map_render_eq_words ConflictClause.render_eq_words_tokens]
    exact words_last ["insert into", table.table.render,
      "(" ++ commaList (values.map (·.1)) ++ ")", "values",
      "(" ++ commaList (values.map (·.2.render)) ++ ")"] _
  | update table assignments condition =>
    rw [Statement.render, table.render_eq_words_tokens, renderCondition_eq_words_tokens]
    exact words_group_last ["update"] table.tokens
      ["set", commaList (Expr.renderList assignments), "where"] (conditionTokens condition)
  | select query => exact query.render_eq_words_tokens
  | withSelect name inner outer =>
    rw [Statement.render, outer.render_eq_words_tokens]
    exact words_last ["with", name, "as", "(" ++ inner.render ++ ")"] outer.tokens

/-- The tokens of a node, in order. -/
def Node.tokens : Node → List String
  | .identifier i => [i.render]
  | .key k => [k.render]
  | .expr e => e.tokens
  | .tableRef t => t.tokens
  | .conflict c => c.tokens
  | .statement s => s.tokens

theorem Node.render_eq_words_tokens (n : Node) : n.render = words n.tokens := by
  cases n with
  | identifier i => exact (words_singleton i.render).symm
  | key k => exact (words_singleton k.render).symm
  | expr e => exact e.render_eq_words_tokens
  | tableRef t => exact t.render_eq_words_tokens
  | conflict c => exact c.render_eq_words_tokens
  | statement s => exact s.render_eq_words_tokens

/-- **Joining does not see groups.** Two groups that are joined by themselves and then together give
the text of all their parts, and that text is empty only if every part is absent or empty. A node
takes part in a join with its text; wherever that was joined with the same separator, its own parts
may stand there instead. So the text of a node is the join of all tokens in it. -/
theorem joins_regardless_of_groups :
    (∀ (separator : String) (xs ys : List (Option String)),
      joinNonEmpty separator (xs ++ ys) =
        joinNonEmpty separator
          [some (joinNonEmpty separator xs), some (joinNonEmpty separator ys)]) ∧
    (∀ (separator : String) (parts : List (Option String)),
      joinNonEmpty separator parts = "" ↔ ∀ part ∈ parts, part = none ∨ part = some "") ∧
    (∀ (separator : String) (before group after : List (Option String)),
      joinNonEmpty separator (before ++ some (joinNonEmpty separator group) :: after) =
        joinNonEmpty separator (before ++ (group ++ after))) ∧
    ∀ n : Node, n.render = words n.tokens :=
  ⟨joinNonEmpty_append, fun _ _ => joinNonEmpty_eq_empty_iff, joinNonEmpty_group,
    Node.render_eq_words_tokens⟩

/-- A condition inside a condition: no token tells where the inner one begins or ends. -/
example :
    (Expr.binary (.binary (.ident (.name "age")) ">" (.literal "18")) "and"
      (.binary (.literal "active") "" (.literal ""))).tokens =
        ["age", ">", "18", "and", "active", "", ""] := rfl

end SchemaMigration
