import SchemaMigration.Proofs.Keys
import SchemaMigration.Proofs.Resolution
import SchemaMigration.Statement.Edges

/-!
# The places of a statement that name objects which have to exist

A reference site is the qualified type of a column, or a table that is referred to.
`Statement.sites` lists the sites of a statement from left to right and looks at nothing but the
tree: it resolves no name and builds no key. `Statement.requires` does both while it walks the tree,
and the two are tied together here:

* a site that resolves contributes the key of its object, and the key of the column behind it when a
  column is named (`ReferenceSite.keysAt`);
* an expression requires what its sites require, one after the other (`Expr.requires_eq_sites`);
* hence a statement requires the keys of all its sites in order, or fails as the leftmost site does
  that does not resolve (`Statement.requires_follows_sites`).
-/

namespace SchemaMigration

/-! ## Sites -/

/-- A place in a tree that names an object which has to exist. -/
inductive ReferenceSite where
  /-- The type of a column, where it is written with its schema. -/
  | dataType (name : Identifier)
  /-- A table, and the column of it that is meant; the column may be empty. -/
  | table (name : Identifier) (column : String)
  deriving DecidableEq

namespace ReferenceSite

/-- The schema and the object that a site names. A type is looked for among the types and a table
among the tables. -/
def resolve : ReferenceSite → Except Identifier.Unresolvable Identifier.Resolved
  | dataType name => name.resolve .type
  | table name _ => name.resolve .table

/-- The keys that a site contributes once its name is resolved. -/
def keysAt : ReferenceSite → Identifier.Resolved → List ObjectKey
  | dataType _, parts => [⟨parts.1, parts.2, ""⟩]
  | table _ column, parts =>
    ⟨parts.1, parts.2, ""⟩ :: if column = "" then [] else [⟨parts.1, parts.2, column⟩]

/-- The keys of a site, or the reason why its name does not resolve. -/
def keys (site : ReferenceSite) : Keys :=
  site.resolve.map site.keysAt

end ReferenceSite

/-- The site of a column's type. A name without a dot is the type of a column as it stands, and no
site. -/
def Identifier.typeSites : Identifier → List ReferenceSite
  | .name text => if '.' ∈ text.toList then [.dataType (.name text)] else []
  | .qualified container base => [.dataType (.qualified container base)]

mutual

/-- The sites of an expression, from left to right. -/
def Expr.sites : Expr → List ReferenceSite
  | .literal _ => []
  | .ident _ => []
  | .binary left _ right => left.sites ++ right.sites
  | .assign _ value => value.sites
  | .references table column _ _ => [.table table column]
  | .column definition => definition.sites
  | .tableBody columns => Column.sitesOfList columns
  | .addColumn definition _ => definition.sites
  | .dropColumn _ => []
  | .addConstraint _ body => body.sites
  | .renameTo _ => []

/-- The sites of a column definition: its type, then its constraints. -/
def Column.sites : Column → List ReferenceSite
  | .define _ dataType constraints => dataType.typeSites ++ Expr.sitesOfList constraints

/-- The sites of several expressions, in order. -/
def Expr.sitesOfList : List Expr → List ReferenceSite
  | [] => []
  | first :: rest => first.sites ++ Expr.sitesOfList rest

/-- The sites of several column definitions, in order. -/
def Column.sitesOfList : List Column → List ReferenceSite
  | [] => []
  | first :: rest => first.sites ++ Column.sitesOfList rest

end

/-- The sites of a statement. The condition of an update and the values of an insert hold none, and
neither do drops and selects. -/
def Statement.sites : Statement → List ReferenceSite
  | .alter _ _ action => action.sites
  | .create _ _ (some body) _ => body.sites
  | .create _ _ none _ => []
  | .drop _ _ => []
  | .insert table _ _ => [.table table.table ""]
  | .update _ assignments _ => Expr.sitesOfList assignments
  | .select _ => []
  | .withSelect _ _ _ => []

/-! ## A tree requires what its sites require -/

/-- The keys of several sites, one after the other. -/
def ReferenceSite.keysOfList (sites : List ReferenceSite) : Keys :=
  Keys.concat (sites.map keys)

theorem ReferenceSite.keysOfList_append (before after : List ReferenceSite) :
    keysOfList (before ++ after) = Keys.append (keysOfList before) (keysOfList after) := by
  unfold keysOfList
  rw [List.map_append, Keys.concat_append]

theorem ReferenceSite.keysOfList_singleton (site : ReferenceSite) :
    keysOfList [site] = site.keys := by
  unfold keysOfList
  rw [List.map_singleton, Keys.concat_cons, Keys.concat_nil, Keys.append_nil]

theorem Identifier.requiredAsType_eq_sites (dataType : Identifier) :
    dataType.requiredAsType = ReferenceSite.keysOfList dataType.typeSites := by
  cases dataType with
  | name text =>
    rw [typeSites]
    -- A plain name is a site only with a dot in it.
    by_cases hdot : '.' ∈ text.toList
    · have hqualified : (name text).isQualified = true :=
        (isQualified_iff _).mpr (.inr ⟨text, rfl, hdot⟩)
      rw [if_pos hdot, requiredAsType, if_pos hqualified, ReferenceSite.keysOfList_singleton]
      rfl
    · have hplain : ¬ (name text).isQualified = true := by
        intro hqualified
        rcases (isQualified_iff _).mp hqualified with ⟨_, _, hname⟩ | ⟨_, hname, hmem⟩
        · cases hname
        · cases hname
          exact hdot hmem
      rw [if_neg hdot, requiredAsType, if_neg hplain]
      rfl
  | qualified container base =>
    rw [typeSites, ReferenceSite.keysOfList_singleton]
    rfl

theorem Identifier.requiredAsReference_eq_keys (table : Identifier) (column : String) :
    table.requiredAsReference column = (ReferenceSite.table table column).keys := by
  unfold requiredAsReference ReferenceSite.keys
  rw [show (ReferenceSite.table table column).resolve = table.resolve .table from rfl]
  -- A name that does not resolve fails before its column is looked at.
  cases table.resolve .table with
  | error error => rfl
  | ok parts =>
    simp only [bind, Except.bind, Except.map, ReferenceSite.keysAt]
    by_cases hcolumn : column = ""
    · rw [if_pos hcolumn, if_pos hcolumn]
      rfl
    · rw [if_neg hcolumn, if_neg hcolumn]
      rfl

/- The induction follows the tree, with one statement for each of the four functions that walk it.
A leaf has no site, a node with one part has the sites of that part, and where parts stand side by
side the sites and the keys are both concatenated. -/
mutual

/-- An expression requires what its sites require, in their order. -/
theorem Expr.requires_eq_sites :
    ∀ e : Expr, e.requires = ReferenceSite.keysOfList e.sites
  | .literal _ => rfl
  | .ident _ => rfl
  -- The operands need what they need one after the other.
  | .binary left _ right => by
    rw [Expr.requires, Expr.sites, ReferenceSite.keysOfList_append, Expr.requires_eq_sites left,
      Expr.requires_eq_sites right]
  | .assign _ value => by
    rw [Expr.requires, Expr.sites]
    exact Expr.requires_eq_sites value
  | .references table column _ _ => by
    rw [Expr.requires, Expr.sites, ReferenceSite.keysOfList_singleton]
    exact table.requiredAsReference_eq_keys column
  | .column definition => by
    rw [Expr.requires, Expr.sites]
    exact Column.requires_eq_sites definition
  | .tableBody columns => by
    rw [Expr.requires, Expr.sites]
    exact Column.requiresList_eq_sites columns
  | .addColumn definition _ => by
    rw [Expr.requires, Expr.sites]
    exact Column.requires_eq_sites definition
  | .dropColumn _ => rfl
  | .addConstraint _ body => by
    rw [Expr.requires, Expr.sites]
    exact Expr.requires_eq_sites body
  | .renameTo _ => rfl

/-- A column definition requires its type first and then what its constraints require. -/
theorem Column.requires_eq_sites :
    ∀ c : Column, c.requires = ReferenceSite.keysOfList c.sites
  | .define _ dataType constraints => by
    rw [Column.requires, Column.sites, ReferenceSite.keysOfList_append,
      dataType.requiredAsType_eq_sites, Expr.requiresList_eq_sites constraints]

theorem Expr.requiresList_eq_sites :
    ∀ es : List Expr, Expr.requiresList es = ReferenceSite.keysOfList (Expr.sitesOfList es)
  | [] => rfl
  | first :: rest => by
    rw [Expr.requiresList, Expr.sitesOfList, ReferenceSite.keysOfList_append,
      Expr.requires_eq_sites first, Expr.requiresList_eq_sites rest]

theorem Column.requiresList_eq_sites :
    ∀ cs : List Column, Column.requiresList cs = ReferenceSite.keysOfList (Column.sitesOfList cs)
  | [] => rfl
  | first :: rest => by
    rw [Column.requiresList, Column.sitesOfList, ReferenceSite.keysOfList_append,
      Column.requires_eq_sites first, Column.requiresList_eq_sites rest]

end

/-- A statement requires what its sites require, in their order. -/
theorem Statement.requires_eq_sites (s : Statement) :
    s.requires = ReferenceSite.keysOfList s.sites := by
  cases s with
  | alter target name action => exact action.requires_eq_sites
  -- Without a body there is nothing to need.
  | create target name body ifNotExists =>
    cases body with
    | none => rfl
    | some body => exact body.requires_eq_sites
  | drop target name => rfl
  | insert table values onConflict =>
    -- An insert needs its table as a reference without a column does.
    rw [Statement.sites, ReferenceSite.keysOfList_singleton,
      ← table.table.requiredAsReference_eq_keys ""]
    rfl
  | update table assignments condition => exact Expr.requiresList_eq_sites assignments
  | select query => rfl
  | withSelect name inner outer => rfl

/-! ## The keys of a statement

What is left is about lists of sites only. A site that resolves does so as a type or as a table, and
neither is a schema, so no key comes out with an empty schema or an empty object. -/

theorem ReferenceSite.keys_of_resolve {site : ReferenceSite} {parts : Identifier.Resolved}
    (h : site.resolve = .ok parts) : site.keys = .ok (site.keysAt parts) := by
  rw [keys, h]
  rfl

/-- A site whose keys are known has resolved. -/
theorem ReferenceSite.exists_resolve_of_keys {site : ReferenceSite} {keys : List ObjectKey}
    (h : site.keys = .ok keys) :
    ∃ parts, site.resolve = .ok parts ∧ keys = site.keysAt parts := by
  cases hresolve : site.resolve with
  | error error =>
    rw [ReferenceSite.keys, hresolve] at h
    cases h
  | ok parts =>
    rw [keys_of_resolve hresolve] at h
    cases h
    exact ⟨parts, rfl, rfl⟩

/-- A key of a site has the parts of the site's name. Its field is empty or the column that is
meant. -/
theorem ReferenceSite.eq_of_mem_keysAt {site : ReferenceSite} {parts : Identifier.Resolved}
    {key : ObjectKey} (h : key ∈ site.keysAt parts) :
    ∃ field, key = ⟨parts.1, parts.2, field⟩ ∧
      (field = "" ∨ ∃ name, site = .table name field) := by
  cases site with
  | dataType name => exact ⟨"", List.mem_singleton.mp h, .inl rfl⟩
  | table name column =>
    unfold keysAt at h
    rcases List.mem_cons.mp h with rfl | hcolumn
    · exact ⟨"", rfl, .inl rfl⟩
    · split at hcolumn
      · exact absurd hcolumn List.not_mem_nil
      · exact ⟨column, List.mem_singleton.mp hcolumn, .inr ⟨name, rfl⟩⟩

/-- The keys of a site name an object in a schema. -/
theorem ReferenceSite.ne_empty_of_mem_keys {site : ReferenceSite} {keys : List ObjectKey}
    {key : ObjectKey} (h : site.keys = .ok keys) (hkey : key ∈ keys) :
    key.schema ≠ "" ∧ key.object ≠ "" := by
  obtain ⟨parts, hresolve, rfl⟩ := exists_resolve_of_keys h
  obtain ⟨field, rfl, _⟩ := eq_of_mem_keysAt hkey
  cases site with
  | dataType name => exact Identifier.parts_ne_empty_of_resolve (by decide) hresolve
  | table name column => exact Identifier.parts_ne_empty_of_resolve (by decide) hresolve

/-- **A statement requires the keys of its reference sites.** If every site resolves, to whatever
parts, the statement requires the keys of the sites in order. If one does not, the statement fails
as the leftmost such site does. No required key lacks its schema or its object. -/
theorem Statement.requires_follows_sites (s : Statement) :
    (∀ parts : ReferenceSite → Identifier.Resolved,
      (∀ site ∈ s.sites, site.resolve = .ok (parts site)) →
        s.requires = .ok (s.sites.flatMap fun site => site.keysAt (parts site))) ∧
    (∀ before site after error, s.sites = before ++ site :: after →
      (∀ earlier ∈ before, ∃ parts, earlier.resolve = .ok parts) → site.resolve = .error error →
        s.requires = .error error) ∧
    (∀ keys, s.requires = .ok keys → ∀ key ∈ keys, key.schema ≠ "" ∧ key.object ≠ "") := by
  rw [s.requires_eq_sites]
  refine ⟨?_, ?_, ?_⟩
  · intro parts hparts
    exact Keys.concat_eq_ok s.sites ReferenceSite.keys (fun site => site.keysAt (parts site))
      fun site hsite => ReferenceSite.keys_of_resolve (hparts site hsite)
  · intro before site after error hsites hbefore hsite
    have hkeys : site.keys = .error error := by
      rw [ReferenceSite.keys, hsite]
      rfl
    unfold ReferenceSite.keysOfList
    rw [hsites, List.map_append, List.map_cons, hkeys]
    apply Keys.concat_eq_error
    intro part hpart
    obtain ⟨earlier, hearlier, rfl⟩ := List.mem_map.mp hpart
    obtain ⟨parts, hparts⟩ := hbefore earlier hearlier
    exact ⟨earlier.keysAt parts, ReferenceSite.keys_of_resolve hparts⟩
  · intro keys hkeys key hkey
    obtain ⟨own, hown, hmem⟩ := Keys.mem_of_concat_eq_ok hkeys hkey
    obtain ⟨site, _, hsite⟩ := List.mem_map.mp hown
    exact ReferenceSite.ne_empty_of_mem_keys hsite hmem

/-- An order table with a foreign key and with a state of the given type. -/
def orderTable (state : Identifier) : Statement :=
  .create .table (.name "app.orders") (some (.tableBody
    [.define (.name "buyer") (.name "int") [.literal "not null",
        .references (.name "app.users") "id" "" ""],
      .define (.name "state") state []])) false

/-- The foreign key of an order table gives two keys and a qualified type one more. A type with
nothing behind its dot ends the walk although the foreign key in front of it resolves. -/
theorem orderTable_requires :
    (orderTable (.qualified "app" "order_state")).requires =
      .ok [⟨"app", "users", ""⟩, ⟨"app", "users", "id"⟩, ⟨"app", "order_state", ""⟩] ∧
    (∀ key ∈ ([⟨"app", "users", ""⟩, ⟨"app", "users", "id"⟩, ⟨"app", "order_state", ""⟩] :
      List ObjectKey), key.schema ≠ "" ∧ key.object ≠ "") ∧
    (orderTable (.name "app.")).requires = .error ⟨"app.", .type⟩ := by
  let foreignKey := ReferenceSite.table (.name "app.users") "id"
  let parts : ReferenceSite → Identifier.Resolved
    | .dataType _ => ("app", "order_state")
    | .table _ _ => ("app", "users")
  have hsites : (orderTable (.qualified "app" "order_state")).sites =
      [foreignKey, .dataType (.qualified "app" "order_state")] := rfl
  have hparts : ∀ site ∈ (orderTable (.qualified "app" "order_state")).sites,
      site.resolve = .ok (parts site) := by
    rw [hsites]
    intro site hsite
    rcases List.mem_cons.mp hsite with rfl | hstate
    · rfl
    · rw [List.mem_singleton.mp hstate]
      rfl
  have hok := (orderTable (.qualified "app" "order_state")).requires_follows_sites.1 parts hparts
  refine ⟨hok, (orderTable _).requires_follows_sites.2.2 _ hok, ?_⟩
  refine (orderTable (.name "app.")).requires_follows_sites.2.1 [foreignKey]
    (.dataType (.name "app.")) [] ⟨"app.", .type⟩ rfl ?_ rfl
  intro earlier hearlier
  rw [List.mem_singleton.mp hearlier]
  exact ⟨("app", "users"), rfl⟩

end SchemaMigration
