import SchemaMigration.Proofs.FaultPath
import SchemaMigration.Proofs.PartChange

/-!
# The order of the keys of a mapping

No text is twice a key of a mapping (`Entries.nodup_names_ofList`), so what is found under a key is
the value of the one entry with that key, wherever it stands (`Entries.get?_eq_some_iff`). Mappings
with the same entries then answer every question alike, and a form asks nothing else
(`Document.Form.run_eq_of_get?_eq`). With the rules for changes inside a value this holds at any
depth: in whatever order the keys of mappings stand, a document is read as the same batch, or it is
refused for the same reason at the same place (`Batch.same_outcome_of_reordered`).

The fields of an insert are the exception. A mapping of them is gone through from front to back, and
their order is the order of the row.
-/

namespace SchemaMigration

/-! ## Names -/

namespace Entries

/-- The keys of a mapping that are texts, in order. -/
def names (entries : Entries) : List String :=
  entries.filterMap fun
    | (.text name, _) => some name
    | _ => none

theorem names_cons_text (name : String) (value : Value) (rest : Entries) :
    names ((.text name, value) :: rest) = name :: names rest := rfl

/-- The names are those of the keys, whatever the values are. -/
theorem names_cons_eq (key value value' : Value) (rest : Entries) :
    names ((key, value) :: rest) = names ((key, value') :: rest) := by
  cases key <;> rfl

theorem mem_names_of_mem {entries : Entries} {name : String} {value : Value}
    (h : (.text name, value) ∈ entries) : name ∈ entries.names :=
  List.mem_filterMap.mpr ⟨(.text name, value), h, rfl⟩

/-- Where no name stands twice, what is found under a name is what stands behind it. -/
theorem get?_eq_some_iff {entries : Entries} (hnames : entries.names.Nodup) {name : String}
    {value : Value} : entries.get? name = some value ↔ (.text name, value) ∈ entries := by
  refine ⟨mem_of_get?, ?_⟩
  intro hmem
  induction entries with
  | nil => cases hmem
  | cons entry rest ih =>
    obtain ⟨key, child⟩ := entry
    have hrest : (names rest).Nodup :=
      hnames.sublist ((List.sublist_cons_self (key, child) rest).filterMap _)
    rw [get?]
    -- Is it the first entry that stands behind the name, or a later one?
    rcases List.mem_cons.mp hmem with hfirst | hlater
    · cases hfirst
      simp [Value.isText]
    · have hkey : key.isText name = false := by
        cases key with
        | text other =>
          -- The name stands further back, so it cannot be that of the first entry.
          rw [names_cons_text, List.nodup_cons] at hnames
          have hother : other ≠ name := by
            rintro rfl
            exact hnames.1 (mem_names_of_mem hlater)
          simp [Value.isText, hother]
        | _ => rfl
      rw [hkey, if_neg Bool.false_ne_true]
      exact ih hrest hlater

theorem get?_eq_of_perm {entries entries' : Entries} (hperm : entries.Perm entries')
    (hnames : entries.names.Nodup) (name : String) : entries.get? name = entries'.get? name := by
  have hnames' : entries'.names.Nodup := (hperm.filterMap _).nodup_iff.mp hnames
  ext value
  rw [get?_eq_some_iff hnames, get?_eq_some_iff hnames', hperm.mem_iff]

/-! ### Mappings that are put together -/

theorem mem_names_put {entries : Entries} {key value : Value} {name : String}
    (h : name ∈ names (put entries key value)) : name ∈ names entries ∨ key = .text name := by
  induction entries with
  | nil =>
    cases key with
    | text other =>
      rw [put, names_cons_text, List.mem_cons] at h
      rcases h with rfl | h
      · exact .inr rfl
      · exact .inl h
    | _ => exact .inl h
  | cons entry rest ih =>
    obtain ⟨old, child⟩ := entry
    -- Only a text is a name, and only the key at the front may be one that was there before.
    rw [put] at h
    split at h
    · -- The old key stays, so the names are those from before.
      exact .inl (names_cons_eq old value child rest ▸ h)
    · cases old with
      | text other =>
        rw [names_cons_text, List.mem_cons] at h ⊢
        rcases h with rfl | h
        · exact .inl (.inl rfl)
        · exact (ih h).imp_left .inr
      | _ => exact ih h

theorem nodup_names_put {entries : Entries} (h : entries.names.Nodup) (key value : Value) :
    (names (put entries key value)).Nodup := by
  induction entries with
  | nil =>
    cases key with
    | text name => simp [put, names]
    | _ => exact List.nodup_nil
  | cons entry rest ih =>
    obtain ⟨old, child⟩ := entry
    rw [put]
    split
    · exact names_cons_eq old child value rest ▸ h
    -- A key of another name stays, and the new one is not its name.
    · next hother =>
      cases old with
      | text name =>
        rw [names_cons_text, List.nodup_cons] at h ⊢
        refine ⟨?_, ih h.2⟩
        intro hmem
        rcases mem_names_put hmem with hmem | rfl
        · exact h.1 hmem
        · exact hother (by simp [Value.sameKey])
      | _ => exact ih h

/-- No name stands twice in a mapping that entries are put into one by one. -/
theorem nodup_names_ofList (entries : List (Value × Value)) : (names (ofList entries)).Nodup := by
  have hfold (before : Entries) (hbefore : before.names.Nodup) :
      (names (entries.foldl (fun before entry => put before entry.1 entry.2) before)).Nodup := by
    induction entries generalizing before with
    | nil => exact hbefore
    | cons entry rest ih => exact ih _ (nodup_names_put hbefore entry.1 entry.2)
  exact hfold [] List.nodup_nil

end Entries

/-! ## Reading reordered mappings -/

namespace Document

variable {α : Type} {position : Position} {value value' : Value} {entries entries' : Entries}

/-- A form depends on nothing but what is found under each key. -/
theorem Form.run_eq_of_get?_eq (h : ∀ key, entries.get? key = entries'.get? key)
    (form : Form α) : form.run entries = form.run entries' := by
  induction form with
  | done result => rfl
  | refuse reason => rfl
  | ask question next ih =>
    rw [run, run, h question.key]
    exact bind_congr ih

/-- A mapping in the position is asked for its keys. The fields of an insert are no such mapping,
and a word or a list is none at all. -/
def Position.LooksUp : Position → Prop
  | row => False
  | keyword => False
  | list _ => False
  | _ => True

/-- The second value is the mapping of the first one with its keys in another order. -/
inductive KeysReordered : Position → Value → Value → Prop where
  | reorder {position : Position} {value value' : Value} {entries entries' : Entries}
      (hposition : position.LooksUp) (hcontent : value.content = .mapping entries)
      (hcontent' : value'.content = .mapping entries') (hperm : entries.Perm entries')
      (hnames : entries.names.Nodup) : KeysReordered position value value'

theorem pairOfValue_eq_of_get?_eq (hcontent : value.content = .mapping entries)
    (hcontent' : value'.content = .mapping entries')
    (hget : ∀ key, entries.get? key = entries'.get? key) :
    pairOfValue value = pairOfValue value' := by
  rw [pairOfValue_mapping hcontent, pairOfValue_mapping hcontent', hget "field", hget "value"]

theorem batchOfValue_eq_of_get?_eq (hcontent : value.content = .mapping entries)
    (hcontent' : value'.content = .mapping entries')
    (hget : ∀ key, entries.get? key = entries'.get? key) :
    Batch.ofValue value = Batch.ofValue value' := by
  rw [batchOfValue_mapping hcontent, batchOfValue_mapping hcontent', hget "statements"]

theorem read_eq_of_get?_eq {form : Form position.Result} (hform : position.form? = some form)
    (hcontent : value.content = .mapping entries) (hcontent' : value'.content = .mapping entries')
    (hget : ∀ key, entries.get? key = entries'.get? key) :
    position.read value = position.read value' := by
  rw [Position.read_eq_run hform hcontent, Position.read_eq_run hform hcontent',
    form.run_eq_of_get?_eq hget]

theorem PairAlike.of_pairOfValue_eq {excused : Reason → Prop}
    (h : pairOfValue value = pairOfValue value') : PairAlike excused value value' := by
  cases hread : pairOfValue value with
  | error fault => exact .refused hread (h.symm.trans hread)
  | ok pair => exact .written hread (h.symm.trans hread) (.refl _)

theorem KeysReordered.alike {excused : Reason → Prop} (h : KeysReordered position value value') :
    position.Alike excused value value' := by
  obtain ⟨hposition, hcontent, hcontent', hperm, hnames⟩ := h
  have hget := Entries.get?_eq_of_perm hperm hnames
  -- The readers of mappings ask by keys, and what they find does not depend on the order.
  cases position with
  | batch => exact .inl (batchOfValue_eq_of_get?_eq hcontent hcontent' hget)
  | pair => exact .of_pairOfValue_eq (pairOfValue_eq_of_get?_eq hcontent hcontent' hget)
  | row => cases hposition
  | keyword => cases hposition
  | list _ => cases hposition
  | statement => exact .inl (read_eq_of_get?_eq rfl hcontent hcontent' hget)
  | select => exact .inl (read_eq_of_get?_eq rfl hcontent hcontent' hget)
  | conflict => exact .inl (read_eq_of_get?_eq rfl hcontent hcontent' hget)
  | expression => exact .inl (read_eq_of_get?_eq rfl hcontent hcontent' hget)
  | column => exact .inl (read_eq_of_get?_eq rfl hcontent hcontent' hget)
  | table => exact .inl (read_eq_of_get?_eq rfl hcontent hcontent' hget)
  | identifier => exact .inl (read_eq_of_get?_eq rfl hcontent hcontent' hget)

theorem keepsAlike_keysReordered (excused : Reason → Prop) :
    KeepsAlike excused KeysReordered where
  isNull_left h := by
    obtain ⟨_, hcontent, _, _, _⟩ := h
    exact isNull_of_content_mapping hcontent
  isNull_right h := by
    obtain ⟨_, _, hcontent', _, _⟩ := h
    exact isNull_of_content_mapping hcontent'
  not_keyword value value' h := by
    obtain ⟨hposition, _, _, _, _⟩ := h
    exact hposition
  alike h := h.alike

end Document

open Document

/-! ## Batches -/

theorem Batch.ofValue_eq_of_reordered {document document' : Value}
    (h : Within KeysReordered .batch document document') :
    ofValue document = ofValue document' := by
  rcases (h.alike (keepsAlike_keysReordered fun _ => False)).2.2.alikeBut with
    hsame | ⟨_, _, hexcused⟩
  · exact hsame
  · exact hexcused.elim

/-- **The order of keys does not matter.** Documents that differ in the order of keys, in any number
of mappings at any depth, are read as the same batch or refused with the same fault; and so they are
at whatever place they stand, the place of the fault and its reason included. -/
theorem Batch.same_outcome_of_reordered {document document' : Value}
    (h : Relation.EqvGen (Within KeysReordered .batch) document document') :
    ofValue document = ofValue document' ∧
      ∀ location, readAt location document = readAt location document' := by
  have hsame : ofValue document = ofValue document' := by
    -- Reordering is symmetric and can be repeated, and so is being read alike.
    induction h with
    | rel _ _ hchange => exact ofValue_eq_of_reordered hchange
    | refl _ => rfl
    | symm _ _ _ ih => exact ih.symm
    | trans _ _ _ _ _ ih₁ ih₂ => exact ih₁.trans ih₂
  refine ⟨hsame, fun location => ?_⟩
  rw [readAt_eq, readAt_eq, hsame]

/-- A change in the statement of a list is a change of the batch. -/
theorem reordered_single {statement statement' : Value}
    (h : Within KeysReordered .statement statement statement') :
    Relation.EqvGen (Within KeysReordered .batch) (.list [statement]) (.list [statement']) :=
  .rel _ _ (.statements (@Within.item _ _ _ _ _ _ [] [] rfl rfl h))

/-- The keys of a statement from the last one to the first. -/
def dropTableBackwards (target name : Value) : Value :=
  .mapping [(.text "name", name), (.text "target", target), (.text "kind", .text "drop")]

/-- The statement `drop table app.users`, its keys and those of its name from the last one to the
first. -/
def dropUsersBackwards : Value :=
  dropTableBackwards (.text "table")
    (.mapping [(.text "name", .text "users"), (.text "container", .text "app")])

/-- The keys of the name are reordered as well, and of two faults the first one is the same. -/
theorem Batch.same_outcome_dropTable :
    Relation.EqvGen (Within KeysReordered .batch) (.list [dropUsersBackwards])
        (toValue [.drop .table (.qualified "app" "users")]) ∧
      ofValue (.list [dropUsersBackwards]) = .ok [.drop .table (.qualified "app" "users")] ∧
      readAt "document" (.list [dropTableBackwards (.text "galaxy") (.int 5)]) =
        .error ⟨"document:statements[0].target", .unknownTarget "galaxy"⟩ := by
  let app : Value × Value := (.text "container", .text "app")
  let users : Value × Value := (.text "name", .text "users")
  have hkind : kindText [(.text "kind", .text "drop"), (.text "target", .text "table"),
      (.text "name", .mapping [users, app])] = .ok StatementKind.drop.name :=
    kindText_ofFields (StatementKind.lower_name .drop) [("target", .text "table"), ("name", _)]
  have hkeys : ["name", "target", "kind"].Nodup := by decide
  -- The two statements differ in the order of all of their keys.
  have hstatement (target name : Value) : Within KeysReordered .statement
      (dropTableBackwards target name)
      (.mapping [(.text "kind", .text "drop"), (.text "target", target), (.text "name", name)]) :=
    .here (.reorder trivial rfl rfl (List.reverse_perm _).symm hkeys)
  -- And in the order of the keys of the name.
  have hname : Within KeysReordered .statement (dropTableDocument (.mapping [users, app]))
      (dropTableDocument (.mapping [app, users])) :=
    @Within.part _ _ _ _ _ _ _ _ [(.text "kind", .text "drop"), (.text "target", .text "table")] []
      "name" rfl rfl rfl (.statement hkind) rfl
      (.here (.reorder trivial rfl rfl (.swap app users []) (by decide)))
  have hboth := (reordered_single (hstatement (.text "table") _)).trans _ _ _
    (reordered_single hname)
  have hfault := reordered_single (hstatement (.text "galaxy") (.int 5))
  have hread := (ofValue_toValue [.drop .table (.qualified "app" "users")] (by decide)).1
  refine ⟨hboth, (same_outcome_of_reordered hboth).1.trans hread, ?_⟩
  rw [(same_outcome_of_reordered hfault).2 "document", readAt_eq]
  rfl

end SchemaMigration
