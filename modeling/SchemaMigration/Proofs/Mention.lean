import Mathlib.Data.List.Infix
import SchemaMigration.Proofs.ProvidedKeys
import SchemaMigration.Proofs.ReferenceSites
import SchemaMigration.Statement.Render

/-!
# What the edges of a statement name is written in its text

The text of a tree and its keys come from two walks over the tree that know nothing of each other.
They are tied together at the reference sites: the text of an expression mentions every site of it,
because the text of a node mentions the texts of those parts that have sites
(`Expr.mentions_sites`). A site is mentioned with its name as a whole, and the parts that the name
resolves to stand in it side by side (`Identifier.mentions_path`). The keys that a statement
provides come from its own name and from the names of its columns, which are written as well, unless
it creates a constraint (`Statement.mentions_edges`).
-/

namespace SchemaMigration

/-! ## Parts of a text -/

namespace Text

/-- The part stands in the text as it is, in one piece. -/
def Mentions (text part : String) : Prop := part.toList <:+: text.toList

instance (text part : String) : Decidable (Mentions text part) :=
  inferInstanceAs (Decidable (part.toList <:+: text.toList))

namespace Mentions

variable {text part other : String}

theorem refl (text : String) : Mentions text text := List.infix_rfl

theorem trans (h : Mentions text part) (hother : Mentions part other) : Mentions text other :=
  List.IsInfix.trans hother h

theorem empty (text : String) : Mentions text "" := List.nil_infix

theorem append_left (h : Mentions text part) (after : String) : Mentions (text ++ after) part := by
  unfold Mentions
  rw [String.toList_append]
  exact List.infix_append_of_infix_left h

theorem append_right (before : String) (h : Mentions text part) :
    Mentions (before ++ text) part := by
  unfold Mentions
  rw [String.toList_append]
  exact List.infix_append_of_infix_right h

theorem between (opening text closing : String) : Mentions (opening ++ text ++ closing) text :=
  (append_right opening (refl text)).append_left closing

end Mentions

/-- Every part of a joined text is mentioned. -/
theorem mentions_intercalate (separator : String) {parts : List String} {part : String}
    (h : part ∈ parts) : Mentions (separator.intercalate parts) part := by
  -- Each text of the join is followed by the separator and the texts behind it.
  induction parts with
  | nil => exact absurd h List.not_mem_nil
  | cons first rest ih =>
    cases rest with
    | nil =>
      rw [List.mem_singleton.mp h, String.intercalate_singleton]
      exact .refl first
    | cons second rest =>
      rw [String.intercalate_cons_cons]
      rcases List.mem_cons.mp h with rfl | hrest
      · exact ((Mentions.refl part).append_left separator).append_left _
      · exact .append_right _ (ih hrest)

end Text

open Text

theorem mentions_commaList {members : List String} {member : String} (h : member ∈ members) :
    Mentions (commaList members) member :=
  mentions_intercalate ", " h

/-- Words that are left out are empty, so each word is mentioned. -/
theorem mentions_words {parts : List String} {part : String} (h : part ∈ parts) :
    Mentions (words parts) part := by
  by_cases hempty : part = ""
  · rw [hempty]
    exact .empty _
  · apply mentions_intercalate
    rw [List.filterMap_map]
    simpa [hempty] using h

theorem mentions_enclosedUnlessEmpty (opening text closing : String) :
    Mentions (enclosedUnlessEmpty opening text closing) text := by
  unfold enclosedUnlessEmpty
  split
  · next hempty =>
    rw [hempty]
    exact .empty _
  · exact .between opening text closing

/-! ## Sites and keys in a text -/

namespace ReferenceSite

/-- The name of a site is written in the text, and the column that is meant as well. -/
def MentionedIn (text : String) : ReferenceSite → Prop
  | dataType name => Mentions text name.render
  | table name column => Mentions text name.render ∧ Mentions text column

/-- A site that a part of the text mentions is mentioned in the text. -/
theorem MentionedIn.mono {text part : String} {site : ReferenceSite} (h : site.MentionedIn part)
    (hpart : Mentions text part) : site.MentionedIn text := by
  cases site with
  | dataType name => exact hpart.trans h
  | table name column => exact ⟨hpart.trans h.1, hpart.trans h.2⟩

end ReferenceSite

/-- The only site of a type is the type itself. -/
theorem Identifier.eq_of_mem_typeSites {i : Identifier} {site : ReferenceSite}
    (h : site ∈ i.typeSites) : site = .dataType i := by
  cases i with
  | name text =>
    rw [typeSites] at h
    split at h
    · exact List.mem_singleton.mp h
    · exact absurd h List.not_mem_nil
  | qualified container base => exact List.mem_singleton.mp h

/-- The schema and the object of a key as they stand in SQL; the schema alone where there is no
object. -/
def ObjectKey.path (key : ObjectKey) : String :=
  if key.object = "" then key.schema else key.schema ++ "." ++ key.object

/-- The schema and the object of the key are written in the text in one piece, and so is its
field. -/
structure ObjectKey.MentionedIn (text : String) (key : ObjectKey) : Prop where
  path : Mentions text key.path
  field : Mentions text key.field

/-- What a name resolves to stands in the name. -/
theorem Identifier.mentions_path {target : Target} {i : Identifier} {parts : Identifier.Resolved}
    (h : i.resolve target = .ok parts) (field : String) :
    Mentions i.render (ObjectKey.path ⟨parts.1, parts.2, field⟩) := by
  unfold ObjectKey.path
  -- The text is the two parts around a dot, or the schema alone.
  rcases render_of_resolve h with hrender | ⟨hrender, hobject⟩
  · rw [hrender]
    split
    · exact ((Mentions.refl parts.1).append_left ".").append_left parts.2
    · exact .refl _
  · rw [hrender, if_pos hobject]
    exact .refl _

/-- A text that mentions a site mentions each of its keys. -/
theorem ReferenceSite.MentionedIn.keys {text : String} {site : ReferenceSite}
    {keys : List ObjectKey} {key : ObjectKey} (h : site.MentionedIn text)
    (hkeys : site.keys = .ok keys) (hkey : key ∈ keys) : key.MentionedIn text := by
  obtain ⟨parts, hresolve, rfl⟩ := exists_resolve_of_keys hkeys
  obtain ⟨field, rfl, hfield⟩ := eq_of_mem_keysAt hkey
  -- The key of a site is that of its name, with the column if the site has one.
  cases site with
  | dataType name =>
    have hempty : field = "" := hfield.resolve_right nofun
    exact ⟨h.trans (Identifier.mentions_path hresolve field), hempty ▸ .empty text⟩
  | table name column =>
    refine ⟨h.1.trans (Identifier.mentions_path hresolve field), ?_⟩
    rcases hfield with rfl | ⟨_, hsite⟩
    · exact .empty text
    · cases hsite
      exact h.2

/-! ## Expressions -/

mutual

/-- The text of an expression mentions every reference site in it. -/
theorem Expr.mentions_sites :
    ∀ (e : Expr) (site : ReferenceSite), site ∈ e.sites → site.MentionedIn e.render
  | .literal _, _, h => by
    rw [Expr.sites] at h
    exact absurd h List.not_mem_nil
  | .ident _, _, h => by
    rw [Expr.sites] at h
    exact absurd h List.not_mem_nil
  -- A site stands in one of the operands, and each operand is a word of the text.
  | .binary left operator right, site, h => by
    rw [Expr.sites, List.mem_append] at h
    rw [Expr.render]
    rcases h with hleft | hright
    · exact (left.mentions_sites site hleft).mono (mentions_words (by simp))
    · exact (right.mentions_sites site hright).mono (mentions_words (by simp))
  | .assign field value, site, h => by
    rw [Expr.sites] at h
    rw [Expr.render]
    exact (value.mentions_sites site h).mono (.append_right _ (.refl _))
  | .references table column _ _, site, h => by
    rw [Expr.sites, List.mem_singleton] at h
    rw [h, Expr.render]
    constructor
    · exact mentions_words (by simp)
    -- The column stands in parentheses behind the table.
    · exact (mentions_words (by simp)).trans (mentions_enclosedUnlessEmpty "(" column ")")
  | .column definition, site, h => by
    rw [Expr.sites] at h
    rw [Expr.render]
    exact definition.mentions_sites site h
  | .tableBody columns, site, h => by
    rw [Expr.sites] at h
    rw [Expr.render]
    obtain ⟨text, htext, hsite⟩ := Column.mentions_sitesOfList columns site h
    exact hsite.mono ((Mentions.between _ _ _).trans (mentions_commaList htext))
  | .addColumn definition _, site, h => by
    rw [Expr.sites] at h
    rw [Expr.render]
    exact (definition.mentions_sites site h).mono (mentions_words (by simp))
  | .dropColumn _, _, h => by
    rw [Expr.sites] at h
    exact absurd h List.not_mem_nil
  | .addConstraint _ body, site, h => by
    rw [Expr.sites] at h
    rw [Expr.render]
    exact (body.mentions_sites site h).mono (mentions_words (by simp))
  | .renameTo _, _, h => by
    rw [Expr.sites] at h
    exact absurd h List.not_mem_nil

/-- The text of a column definition mentions its type and every site of its constraints. -/
theorem Column.mentions_sites :
    ∀ (c : Column) (site : ReferenceSite), site ∈ c.sites → site.MentionedIn c.render
  -- The site is the type of the column, or it stands in one of the constraints.
  | .define name dataType constraints, site, h => by
    rw [Column.sites, List.mem_append] at h
    rw [Column.render]
    rcases h with htype | hconstraint
    · rw [dataType.eq_of_mem_typeSites htype]
      exact mentions_words (by simp)
    · obtain ⟨text, htext, hsite⟩ := Expr.mentions_sitesOfList constraints site hconstraint
      exact hsite.mono (mentions_words (List.mem_cons_of_mem _ (List.mem_cons_of_mem _ htext)))

/-- A site of several expressions is mentioned in the text of one of them. -/
theorem Expr.mentions_sitesOfList :
    ∀ (es : List Expr) (site : ReferenceSite), site ∈ Expr.sitesOfList es →
      ∃ text ∈ Expr.renderList es, site.MentionedIn text
  | [], _, h => by
    rw [Expr.sitesOfList] at h
    exact absurd h List.not_mem_nil
  | first :: rest, site, h => by
    rw [Expr.sitesOfList, List.mem_append] at h
    rw [Expr.renderList]
    rcases h with hfirst | hrest
    · exact ⟨first.render, List.mem_cons_self, first.mentions_sites site hfirst⟩
    · obtain ⟨text, htext, hsite⟩ := Expr.mentions_sitesOfList rest site hrest
      exact ⟨text, List.mem_cons_of_mem _ htext, hsite⟩

/-- A site of several column definitions is mentioned in the text of one of them. -/
theorem Column.mentions_sitesOfList :
    ∀ (cs : List Column) (site : ReferenceSite), site ∈ Column.sitesOfList cs →
      ∃ text ∈ Column.renderList cs, site.MentionedIn text
  | [], _, h => by
    rw [Column.sitesOfList] at h
    exact absurd h List.not_mem_nil
  | first :: rest, site, h => by
    rw [Column.sitesOfList, List.mem_append] at h
    rw [Column.renderList]
    rcases h with hfirst | hrest
    · exact ⟨first.render, List.mem_cons_self, first.mentions_sites site hfirst⟩
    · obtain ⟨text, htext, hsite⟩ := Column.mentions_sitesOfList rest site hrest
      exact ⟨text, List.mem_cons_of_mem _ htext, hsite⟩

end

/-! ## Statements -/

/-- The text of a statement mentions every reference site in it. -/
theorem Statement.mentions_sites (s : Statement) {site : ReferenceSite} (h : site ∈ s.sites) :
    site.MentionedIn s.render := by
  cases s with
  | alter target name action =>
    exact (action.mentions_sites site h).mono (mentions_words (by simp))
  | create target name body ifNotExists =>
    cases body with
    | none => exact absurd h List.not_mem_nil
    | some body =>
      -- The body is written whether the statement creates a constraint or not.
      rw [Statement.render]
      have hbody := body.mentions_sites site h
      split
      · exact hbody.mono (mentions_words (by simp))
      · exact hbody.mono (mentions_words (by simp))
  | drop target name => exact absurd h List.not_mem_nil
  | insert table values onConflict =>
    rw [List.mem_singleton.mp h, Statement.render]
    exact ⟨mentions_words (by simp), .empty _⟩
  -- Only the assignments of an update have sites.
  | update table assignments condition =>
    obtain ⟨text, htext, hsite⟩ := Expr.mentions_sitesOfList assignments site h
    have hlist : Mentions (commaList (Expr.renderList assignments)) text :=
      mentions_commaList htext
    exact hsite.mono ((mentions_words (by simp)).trans hlist)
  | select query => exact absurd h List.not_mem_nil
  | withSelect name inner outer => exact absurd h List.not_mem_nil

/-- A key that a statement requires belongs to one of its sites. -/
theorem Statement.exists_site_of_requires {s : Statement} {keys : List ObjectKey}
    {key : ObjectKey} (h : s.requires = .ok keys) (hkey : key ∈ keys) :
    ∃ site ∈ s.sites, ∃ own, site.keys = .ok own ∧ key ∈ own := by
  rw [s.requires_eq_sites] at h
  obtain ⟨own, hown, hmem⟩ := Keys.mem_of_concat_eq_ok h hkey
  obtain ⟨site, hsite, hkeys⟩ := List.mem_map.mp hown
  exact ⟨site, hsite, own, hkeys, hmem⟩

/-- The last part of an identifier stands in its text. -/
theorem Identifier.mentions_baseName (i : Identifier) : Mentions i.render i.baseName := by
  cases i with
  | name text => exact .refl text
  | qualified container base => exact .append_right _ (.refl base)

theorem Column.mentions_baseName (c : Column) : Mentions c.render c.baseName := by
  cases c with
  | define name dataType constraints =>
    rw [Column.render]
    exact (mentions_words List.mem_cons_self).trans name.mentions_baseName

/-- A text that mentions the name of an object and a field mentions the key of the field. -/
theorem ObjectKey.mentionedIn_of_resolve {text field : String} {target : Target} {i : Identifier}
    {parts : Identifier.Resolved} (h : i.resolve target = .ok parts)
    (hname : Mentions text i.render) (hfield : Mentions text field) :
    ObjectKey.MentionedIn text ⟨parts.1, parts.2, field⟩ :=
  ⟨hname.trans (Identifier.mentions_path h field), hfield⟩

/-- A key that an alteration leaves behind has a field that is written in its action. -/
theorem Expr.mentions_field_of_keysAsAction {action : Expr} {parts : Identifier.Resolved}
    {key : ObjectKey} (h : key ∈ action.keysAsAction parts) :
    ∃ field, key = ⟨parts.1, parts.2, field⟩ ∧ Mentions action.render field := by
  cases action with
  | addColumn definition ifNotExists =>
    refine ⟨definition.baseName, List.mem_singleton.mp h, ?_⟩
    rw [Expr.render]
    exact (mentions_words (by simp)).trans definition.mentions_baseName
  | _ => exact ⟨"", List.mem_singleton.mp h, .empty _⟩

/-- The name of a column that a body defines is written in the body. -/
theorem Expr.mentions_baseName_of_columnsOfBody {body : Option Expr} {column : Column}
    (h : column ∈ Expr.columnsOfBody body) :
    Mentions ((body.map Expr.render).getD "") column.baseName := by
  match body, h with
  | some (.tableBody columns), h =>
    -- The column is one of those that are written between the parentheses.
    have hcolumn : column.render ∈ Column.renderList columns := by
      rw [Column.renderList_eq_map]
      exact List.mem_map_of_mem h
    show Mentions (Expr.render (.tableBody columns)) column.baseName
    rw [Expr.render]
    exact (Mentions.between _ _ _).trans
      ((mentions_commaList hcolumn).trans column.mentions_baseName)

/-- The keys that a statement provides are written in its text. The one exception creates a
constraint: it is written without its name. -/
theorem Statement.mentions_provided {s : Statement}
    (hs : ∀ name body ifNotExists, s ≠ .create .constraint name body ifNotExists)
    {keys : List ObjectKey} {key : ObjectKey} (h : s.provides = .ok keys) (hkey : key ∈ keys) :
    key.MentionedIn s.render := by
  cases s with
  -- The object is named by the statement, and the field, if there is one, by its action.
  | alter target name action =>
    rw [Statement.provides_alter] at h
    obtain ⟨parts, hresolve, rfl⟩ := exists_of_map_eq_ok h
    obtain ⟨field, rfl, hfield⟩ := Expr.mentions_field_of_keysAsAction hkey
    refine ObjectKey.mentionedIn_of_resolve hresolve (mentions_words (by simp)) ?_
    exact (mentions_words (by simp)).trans hfield
  | create target name body ifNotExists =>
    rw [Statement.provides_create] at h
    obtain ⟨parts, hresolve, rfl⟩ := exists_of_map_eq_ok h
    have htarget : target ≠ .constraint := by
      rintro rfl
      exact hs name body ifNotExists rfl
    rw [Statement.render, if_neg htarget]
    -- The first key is that of the object itself, and the others have the columns of the body.
    rcases List.mem_cons.mp hkey with rfl | hcolumn
    · exact ObjectKey.mentionedIn_of_resolve hresolve (mentions_words (by simp)) (.empty _)
    · obtain ⟨column, hmem, rfl⟩ := List.mem_map.mp hcolumn
      refine ObjectKey.mentionedIn_of_resolve hresolve (mentions_words (by simp)) ?_
      exact (mentions_words (by simp)).trans (Expr.mentions_baseName_of_columnsOfBody hmem)
  | _ =>
    -- No other statement provides a key.
    cases h
    exact absurd hkey List.not_mem_nil

/-- **The edges of a statement name nothing that its text does not.** Each key that the statement
requires is written in its text, the schema and the object side by side and the field anywhere. So
is each key that it provides, unless it creates a constraint. -/
theorem Statement.mentions_edges (s : Statement) :
    (∀ keys, s.requires = .ok keys → ∀ key ∈ keys, key.MentionedIn s.render) ∧
    ((∀ name body ifNotExists, s ≠ .create .constraint name body ifNotExists) →
      ∀ keys, s.provides = .ok keys → ∀ key ∈ keys, key.MentionedIn s.render) := by
  constructor
  · intro keys h key hkey
    -- Each key that is needed comes from a site, and each that is provided from a name.
    obtain ⟨site, hsite, own, hown, hmem⟩ := Statement.exists_site_of_requires h hkey
    exact (s.mentions_sites hsite).keys hown hmem
  · intro hs keys h key hkey
    exact Statement.mentions_provided hs h hkey

/-- A column of a qualified type that refers to a column of another table. -/
def buyerColumn : Column :=
  .define (.qualified "o" "buyer") (.qualified "app" "user_id")
    [.literal "", .references (.name "app.users") "id" "" ""]

/-- The type of an added column, the table and the column that it refers to, and its own name are
all written where it is added. -/
theorem mentions_edges_of_buyer :
    let added : Statement := .alter .table (.name "app.orders") (.addColumn buyerColumn true)
    let needed : List ObjectKey :=
      [⟨"app", "user_id", ""⟩, ⟨"app", "users", ""⟩, ⟨"app", "users", "id"⟩]
    added.requires = .ok needed ∧ (∀ key ∈ needed, key.MentionedIn added.render) ∧
      added.provides = .ok [⟨"app", "orders", "buyer"⟩] ∧
      ObjectKey.MentionedIn added.render ⟨"app", "orders", "buyer"⟩ := by
  intro added needed
  have hrequires : added.requires = .ok needed := rfl
  have hprovides : added.provides = .ok [⟨"app", "orders", "buyer"⟩] := rfl
  exact ⟨hrequires, added.mentions_edges.1 needed hrequires, hprovides,
    added.mentions_edges.2 nofun _ hprovides _ List.mem_cons_self⟩

/-- A constraint is created by its body alone, and its own name is not written. -/
example :
    let created : Statement :=
      .create .constraint (.name "app.price_check") (some (.literal "check (0 < price)")) false
    created.provides = .ok [⟨"app", "price_check", ""⟩] ∧
      ¬ Text.Mentions created.render "price_check" :=
  ⟨rfl, by decide⟩

end SchemaMigration
