import SchemaMigration.Proofs.Resolution
import SchemaMigration.Statement.Edges

/-!
# The keys that alterations and creations provide

Both resolve the name of their object first, and every key that they provide has the two parts that
come out of this (`Statement.Defines.provides_eq`). What is left is which names resolve at all. A
name that lacks a part its target needs does not (`Identifier.LacksPart`), and the parts of any
other name are there, except that a schema may be named alone. So the keys have their schemas, and
an object is missing only in the keys of a schema that is named alone
(`Statement.Defines.provides_whole_keys`). Nothing keeps a column from being added to such a schema:
its key has a field and no object (`column_of_schema_has_no_object`), and there is no other way in
which such a key comes up.
-/

namespace SchemaMigration

/-! ## What is provided once the name is resolved -/

/-- The keys of an alteration by an action: the column that is added, or else the object itself. -/
def Expr.keysAsAction (parts : Identifier.Resolved) : Expr → List ObjectKey
  | .addColumn definition _ => [ObjectKey.ofField parts definition.baseName]
  | _ => [ObjectKey.ofResolved parts]

/-- The columns that the body of a creation defines; only the body of a table defines any. -/
def Expr.columnsOfBody : Option Expr → List Column
  | some (.tableBody columns) => columns
  | _ => []

theorem exists_of_map_eq_ok {ε α β : Type} {first : Except ε α} {f : α → β} {result : β}
    (h : first.map f = .ok result) : ∃ a, first = .ok a ∧ f a = result := by
  cases first with
  | error error => cases h
  | ok a => exact ⟨a, rfl, Except.ok.inj h⟩

theorem Statement.provides_alter (target : Target) (name : Identifier) (action : Expr) :
    (Statement.alter target name action).provides =
      (name.resolve target).map fun parts => action.keysAsAction parts := by
  rw [Statement.provides]
  cases name.resolve target with
  | error error => rfl
  | ok parts => cases action <;> rfl

theorem Statement.provides_create (target : Target) (name : Identifier) (body : Option Expr)
    (ifNotExists : Bool) :
    (Statement.create target name body ifNotExists).provides =
      (name.resolve target).map fun parts => ObjectKey.ofResolved parts ::
        (Expr.columnsOfBody body).map fun column => ObjectKey.ofField parts column.baseName := by
  rw [Statement.provides]
  cases name.resolve target with
  | error error => rfl
  | ok parts =>
    -- Only a table body has columns.
    cases body with
    | none => rfl
    | some body => cases body <;> rfl

/-- The statement alters or creates the object of this kind and name. -/
inductive Statement.Defines (target : Target) (name : Identifier) : Statement → Prop where
  | alter (action : Expr) : Defines target name (.alter target name action)
  | create (body : Option Expr) (ifNotExists : Bool) :
      Defines target name (.create target name body ifNotExists)

/-- The columns that an alteration adds or that the body of a creation defines. -/
def Statement.givenColumns : Statement → List Column
  | .alter _ _ (.addColumn column _) => [column]
  | .create _ _ body _ => Expr.columnsOfBody body
  | _ => []

/-- Whatever is altered or created, the provided keys are those of the resolved name, and there is
at least one. A key with a field is the key of a column that is given. -/
theorem Statement.Defines.provides_eq {target : Target} {name : Identifier} {s : Statement}
    (h : s.Defines target name) :
    ∃ keysOf : Identifier.Resolved → List ObjectKey,
      s.provides = (name.resolve target).map keysOf ∧
      ∀ parts, keysOf parts ≠ [] ∧
        ∀ key ∈ keysOf parts, key.schema = parts.1 ∧ key.object = parts.2 ∧
          (key.field ≠ "" → ∃ column ∈ s.givenColumns, key.field = column.baseName) := by
  cases h with
  | alter action =>
    refine ⟨fun parts => action.keysAsAction parts, Statement.provides_alter .., ?_⟩
    intro parts
    cases action <;>
      simp [Expr.keysAsAction, Statement.givenColumns, ObjectKey.ofResolved, ObjectKey.ofField]
  | create body ifNotExists =>
    refine ⟨_, Statement.provides_create .., ?_⟩
    intro parts
    refine ⟨List.cons_ne_nil _ _, ?_⟩
    intro key hkey
    rcases List.mem_cons.mp hkey with rfl | hcolumn
    · exact ⟨rfl, rfl, absurd rfl⟩
    · obtain ⟨column, hmem, rfl⟩ := List.mem_map.mp hcolumn
      exact ⟨rfl, rfl, fun _ => ⟨column, hmem, rfl⟩⟩

/-! ## Which names resolve -/

/-- A part is missing that the name of such an object needs. A text with a dot needs something on
both sides of its first dot, whatever it names. -/
inductive Identifier.LacksPart (target : Target) : Identifier → Prop where
  | container (base : String) : LacksPart target (.qualified "" base)
  | base (container : String) (htarget : target ≠ .schema) :
      LacksPart target (.qualified container "")
  | dot {text : String} (hdot : '.' ∉ text.toList) (htarget : target ≠ .schema) :
      LacksPart target (.name text)
  | before (after : String) : LacksPart target (.name ("." ++ after))
  | after {before : String} (hdot : '.' ∉ before.toList) : LacksPart target (.name (before ++ "."))

namespace Identifier

/-- A name that lacks a part does not resolve, and the error names the target that needs the part.
-/
theorem LacksPart.resolve_eq_error {target : Target} {i : Identifier} (h : i.LacksPart target) :
    ∃ text, i.resolve target = .error ⟨text, target⟩ := by
  cases h with
  | container base =>
    refine ⟨base, ?_⟩
    rw [resolve, if_pos rfl]
  | base container htarget =>
    by_cases hcontainer : container = ""
    · refine ⟨"", ?_⟩
      rw [resolve, if_pos hcontainer]
    · refine ⟨(qualified container "").render, ?_⟩
      rw [resolve, if_neg hcontainer, if_pos ⟨rfl, htarget⟩]
  | @dot text hdot htarget =>
    refine ⟨text, ?_⟩
    simp only [resolve, splitAtDot_eq_none_iff.mpr hdot, if_neg htarget]
  | before after =>
    have hsplit : splitAtDot ("." ++ after).toList = some ([], after.toList) :=
      splitAtDot_eq_some_iff.mpr ⟨by simp, List.not_mem_nil⟩
    refine ⟨"." ++ after, ?_⟩
    simp only [resolve, hsplit, true_or, if_pos]
  | @after before hdot =>
    have hsplit : splitAtDot (before ++ ".").toList = some (before.toList, []) :=
      splitAtDot_eq_some_iff.mpr ⟨by simp, hdot⟩
    refine ⟨before ++ ".", ?_⟩
    simp only [resolve, hsplit, or_true, if_pos]

/-- Nothing else keeps a name from resolving. -/
theorem lacksPart_of_resolve_eq_error {target : Target} {i : Identifier} {error : Unresolvable}
    (h : i.resolve target = .error error) : i.LacksPart target := by
  cases i with
  | qualified container base =>
    rw [resolve] at h
    split at h
    · next hcontainer =>
      rw [hcontainer]
      exact .container base
    · split at h
      · next hbase =>
        rw [hbase.1]
        exact .base container hbase.2
      · cases h
  | name text =>
    cases hsplit : splitAtDot text.toList with
    | none =>
      simp only [resolve, hsplit] at h
      split at h
      · cases h
      · next htarget => exact .dot (splitAtDot_eq_none_iff.mp hsplit) htarget
    | some halves =>
      obtain ⟨before, after⟩ := halves
      obtain ⟨htext, hdot⟩ := splitAtDot_eq_some_iff.mp hsplit
      have hname : text = String.ofList before ++ "." ++ String.ofList after := by
        rw [← String.toList_inj, htext]
        simp
      simp only [resolve, hsplit] at h
      split at h
      · next hempty =>
        rcases hempty with rfl | rfl
        · rw [hname]
          exact .before (String.ofList after)
        · rw [hname, String.ofList_nil, String.append_empty]
          exact .after (by rwa [String.toList_ofList])
      · cases h

/-- The name of a schema with nothing behind it. -/
inductive NamesSchemaAlone : Identifier → Prop where
  | name {text : String} (hdot : '.' ∉ text.toList) : NamesSchemaAlone (.name text)
  | qualified (container : String) : NamesSchemaAlone (.qualified container "")

/-- The object is missing from what a name resolves to only where a schema alone is named. -/
theorem namesSchemaAlone_of_resolve {target : Target} {i : Identifier} {parts : Resolved}
    (h : i.resolve target = .ok parts) (hobject : parts.2 = "") :
    target = .schema ∧ i.NamesSchemaAlone := by
  cases i with
  | qualified container base =>
    obtain ⟨_, hbase, rfl⟩ := resolve_qualified_eq_ok_iff.mp h
    obtain rfl : base = "" := hobject
    exact ⟨hbase.resolve_left (fun hne => hne rfl), .qualified container⟩
  | name text =>
    rcases resolve_name_eq_ok_iff.mp h with ⟨_, after, _, _, hafter, rfl⟩ | ⟨hsplit, htarget, _⟩
    · exact absurd (String.ofList_eq_empty_iff.mp hobject) hafter
    · exact ⟨htarget, .name (splitAtDot_eq_none_iff.mp hsplit)⟩

/-- Only the empty text resolves to an empty schema, where a schema is named. -/
theorem schema_ne_empty_of_resolve {target : Target} {i : Identifier} {parts : Resolved}
    (h : i.resolve target = .ok parts) (hi : target = .schema → i ≠ .name "") :
    parts.1 ≠ "" := by
  cases i with
  | qualified container base =>
    obtain ⟨hcontainer, _, rfl⟩ := resolve_qualified_eq_ok_iff.mp h
    exact hcontainer
  | name text =>
    rcases resolve_name_eq_ok_iff.mp h with ⟨before, _, _, hbefore, _, rfl⟩ | ⟨_, htarget, rfl⟩
    · exact fun hempty => hbefore (String.ofList_eq_empty_iff.mp hempty)
    · rintro rfl
      exact hi htarget rfl

end Identifier

/-! ## The keys are whole -/

/-- No part is missing in a key of the object with this name: its schema is there, and so is its
object unless the key belongs to a schema that is named alone. -/
structure ObjectKey.WholeFor (target : Target) (name : Identifier) (key : ObjectKey) : Prop where
  schema_ne_empty : key.schema ≠ ""
  schema_alone_of_object_eq : key.object = "" → target = .schema ∧ name.NamesSchemaAlone

/-- What a name resolves to makes whole keys. -/
theorem ObjectKey.wholeFor_of_resolve {target : Target} {name : Identifier}
    {parts : Identifier.Resolved} {key : ObjectKey} (h : name.resolve target = .ok parts)
    (hname : target = .schema → name ≠ .name "") (hschema : key.schema = parts.1)
    (hobject : key.object = parts.2) : key.WholeFor target name := by
  constructor
  · rw [hschema]
    exact Identifier.schema_ne_empty_of_resolve h hname
  · rw [hobject]
    exact Identifier.namesSchemaAlone_of_resolve h

/-- **No part of a provided key is missing.** Where the name lacks a part that its target needs, the
statement fails, and the error names that target. Otherwise it provides keys, and all of them are
whole; one that has a field but no object is the key of a column that is given to a schema. -/
theorem Statement.Defines.provides_whole_keys {target : Target} {name : Identifier} {s : Statement}
    (h : s.Defines target name) (hname : target = .schema → name ≠ .name "") :
    (name.LacksPart target ∧ ∃ text, s.provides = .error ⟨text, target⟩) ∨
      (¬ name.LacksPart target ∧ ∃ keys, s.provides = .ok keys ∧ keys ≠ [] ∧
        (∀ key ∈ keys, key.WholeFor target name) ∧
        ∀ key ∈ keys, key.field ≠ "" → key.object = "" →
          target = .schema ∧ ∃ column ∈ s.givenColumns, key.field = column.baseName) := by
  obtain ⟨keysOf, hprovides, hkeys⟩ := h.provides_eq
  rw [hprovides]
  -- A name resolves exactly if it lacks nothing.
  by_cases hlacks : name.LacksPart target
  · obtain ⟨text, hresolve⟩ := hlacks.resolve_eq_error
    rw [hresolve]
    exact .inl ⟨hlacks, text, rfl⟩
  · cases hresolve : name.resolve target with
    | error error => exact absurd (Identifier.lacksPart_of_resolve_eq_error hresolve) hlacks
    | ok parts =>
      obtain ⟨hne, hparts⟩ := hkeys parts
      -- All keys of the statement share the two parts of its name.
      have hwhole : ∀ key ∈ keysOf parts, key.WholeFor target name := by
        intro key hkey
        obtain ⟨hschema, hobject, -⟩ := hparts key hkey
        exact ObjectKey.wholeFor_of_resolve hresolve hname hschema hobject
      refine .inr ⟨hlacks, keysOf parts, rfl, hne, hwhole, ?_⟩
      -- An object is missing only where a schema is named alone.
      intro key hkey hfield hobject
      obtain ⟨htarget, -⟩ := (hwhole key hkey).schema_alone_of_object_eq hobject
      exact ⟨htarget, (hparts key hkey).2.2 hfield⟩

/-- A column of a given name and of a built-in type. -/
def textColumn (name : String) : Column := .define (.name name) (.name "text") []

/-- A table with both parts of its name gives whole keys, one with nothing behind its dot gives
none, and a schema that is named alone gives keys without an object, one with a field if a column is
added to it. -/
theorem users_provides_whole_keys :
    let created : Statement := .create .table (.qualified "app" "users")
      (some (.tableBody [textColumn "email"])) false
    let altered : Statement := .alter .table (.name "app.") (.addColumn (textColumn "email") false)
    let added : Statement := .alter .schema (.name "app") (.addColumn (textColumn "note") false)
    (∃ keys, created.provides = .ok keys ∧ keys ≠ [] ∧
      ∀ key ∈ keys, key.WholeFor .table (.qualified "app" "users")) ∧
    (∃ text, altered.provides = .error ⟨text, .table⟩) ∧
    ∃ keys, added.provides = .ok keys ∧ keys ≠ [] ∧
      (∀ key ∈ keys, key.WholeFor .schema (.name "app")) ∧
      ∀ key ∈ keys, key.field ≠ "" → key.object = "" →
        ∃ column ∈ added.givenColumns, key.field = column.baseName := by
  intro created altered added
  have hcreated : created.Defines .table (.qualified "app" "users") := .create _ _
  have haltered : altered.Defines .table (.name "app.") := .alter _
  have hadded : added.Defines .schema (.name "app") := .alter _
  -- The theorem decides each of the three by the parts that are there.
  refine ⟨?_, ?_, ?_⟩
  · rcases hcreated.provides_whole_keys nofun with ⟨_, text, herror⟩ | ⟨_, keys, hok, hne, hkeys, _⟩
    · cases herror
    · exact ⟨keys, hok, hne, hkeys⟩
  · rcases haltered.provides_whole_keys nofun with ⟨_, herror⟩ | ⟨_, keys, hok, _⟩
    · exact herror
    · cases hok
  · rcases hadded.provides_whole_keys (fun _ => by decide) with
      ⟨_, text, herror⟩ | ⟨_, keys, hok, hne, hwhole, hfields⟩
    · cases herror
    · exact ⟨keys, hok, hne, hwhole, fun key hkey hfield hobject =>
        (hfields key hkey hfield hobject).2⟩

/-- A schema has no object in it, so a column that is added to a schema is a field of none. -/
theorem column_of_schema_has_no_object :
    let added : Statement := .alter .schema (.name "app") (.addColumn (textColumn "note") false)
    added.Defines .schema (.name "app") ∧
      ∃ key, added.provides = .ok [key] ∧ key.field ≠ "" ∧ key.object = "" :=
  ⟨.alter _, ⟨"app", "", "note"⟩, rfl, by decide, rfl⟩

end SchemaMigration
