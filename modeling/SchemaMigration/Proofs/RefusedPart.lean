import SchemaMigration.Proofs.PartChange

/-!
# A value is refused when one of its parts is

A form that comes to a result has asked every question on its way, and each of them was answered. So
where a form cannot pass by a key (`Document.Form.AsksFor`), the value under the key has been read
when the mapping has (`Document.Position.Parts.exists_readAs`). What is refused in a position makes
everything be refused that it stands in, at any depth (`Document.Within.refused`).
-/

namespace SchemaMigration

namespace Document

variable {α : Type} {excused : Reason → Prop}

/-! ## Questions that have been answered -/

/-- The form does not come to a result without a question about the key. -/
def Form.AsksFor (key : String) : Form α → Prop
  | done _ => False
  | refuse _ => True
  | ask question next => question.key = key ∨ ∀ answer, (next answer).AsksFor key

theorem Form.asksFor_map {β : Type} {key : String} {form : Form α} {f : α → β} :
    (form.map f).AsksFor key ↔ form.AsksFor key := by
  induction form with
  | done result => exact Iff.rfl
  | refuse reason => exact Iff.rfl
  | ask question next ih => exact or_congr Iff.rfl (forall_congr' ih)

/-- A form that has come to a result has had an answer to a question about the key. -/
theorem Form.exists_answer {P : ∀ {γ : Type}, Question γ → Prop} {entries : Entries}
    {key : String} {form : Form α} {result : α} (hasks : form.AsksFor key) (hall : form.All P)
    (hrun : form.run entries = .ok result) :
    ∃ (γ : Type) (question : Question γ) (answer : γ), question.key = key ∧ P question ∧
      question.answer (entries.get? key) = .ok answer := by
  induction form with
  | done result => cases hasks
  | refuse reason => cases hrun
  | ask question next ih =>
    -- The form came to a result, so the question was answered.
    obtain ⟨answer, hanswer, hrest⟩ := Loading.bind_eq_ok_iff.mp hrun
    cases hasks with
    | inl hkey =>
      subst hkey
      exact ⟨_, question, answer, rfl, hall.1, hanswer⟩
    | inr hnext => exact ih answer (hnext answer) (hall.2 answer) hrest

end Document

open Document

theorem ExprKind.asksFor_form (kind : ExprKind) :
    ∀ entry ∈ kind.parts, entry.2 ≠ .keyword → kind.form.AsksFor entry.1 := by
  cases kind <;>
    simp [ExprKind.parts, ExprKind.form, columnForm, Form.map, Form.AsksFor, Question.key]

theorem StatementKind.asksFor_form (kind : StatementKind) :
    ∀ entry ∈ kind.parts, entry.2 ≠ .keyword → kind.form.AsksFor entry.1 := by
  cases kind <;>
    simp [StatementKind.parts, StatementKind.form, selectForm, Form.map, Form.AsksFor,
      Question.key]

namespace Document

section Parts

variable {position part : Position} {parts : List (String × Position)} {entries : Entries}
  {value child : Value} {key : String}

theorem mem_of_lookup (hkey : parts.lookup key = some part) : (key, part) ∈ parts := by
  obtain ⟨front, back, hsplit, _⟩ := List.lookup_eq_some_iff.mp hkey
  rw [hsplit]
  exact List.mem_append_right front List.mem_cons_self

/-- A form that fits the parts asks for each of them that is no word. -/
theorem Position.Parts.asksFor {form : Form position.Result}
    (hparts : Position.Parts entries position parts) (hasks : position.Asks entries form)
    (hkey : parts.lookup key = some part) (hpart : part ≠ .keyword) : form.AsksFor key := by
  have hmem := mem_of_lookup hkey
  -- Which key it is decides the question, and no answer leads around it.
  cases hparts with
  | batch => cases hasks
  | pair => cases hasks
  | @statement kind hkind =>
    cases hasks with
    | statement hkind' =>
      obtain rfl := StatementKind.eq_of_kindText hkind hkind'
      exact kind.asksFor_form _ hmem hpart
  | @expression kind hkind =>
    cases hasks with
    | expression hkind' =>
      obtain rfl := ExprKind.eq_of_kindText hkind hkind'
      exact kind.asksFor_form _ hmem hpart
  | select =>
    cases hasks with
    | select => exact Form.asksFor_map.mp (StatementKind.select.asksFor_form _ hmem hpart)
  | column =>
    cases hasks with
    | column => exact Form.asksFor_map.mp (ExprKind.column.asksFor_form _ hmem hpart)
  | conflict =>
    cases hasks with
    | conflict =>
      simp only [conflictParts, List.mem_cons, Prod.mk.injEq, List.not_mem_nil, or_false] at hmem
      rcases hmem with ⟨rfl, _⟩ | ⟨rfl, _⟩
      · exact .inl rfl
      · exact .inr fun _ => .inl rfl
  | table _ =>
    cases hasks with
    | table =>
      simp only [List.mem_cons, Prod.mk.injEq, List.not_mem_nil, or_false] at hmem
      exact .inl hmem.1.symm

/-- What has been read in a position is accepted there. -/
theorem Position.readAs_of_read {result : position.Result} (h : position.read value = .ok result) :
    position.ReadAs value result := by
  -- What is read as it stands is read as its position says; a row and a pair are read in steps.
  induction position generalizing value with
  | row =>
    obtain ⟨pairs, hpairs, hrow⟩ := Loading.bind_eq_ok_iff.mp h
    exact ⟨pairs, hpairs, hrow⟩
  | pair =>
    obtain ⟨written, hwritten, hcell⟩ := Loading.bind_eq_ok_iff.mp h
    obtain ⟨name, hname, hcell⟩ := Loading.bind_eq_ok_iff.mp hcell
    obtain ⟨expr, hexpr, hcell⟩ := Loading.bind_eq_ok_iff.mp hcell
    cases hcell
    exact ⟨written, pairOfValue_eq_ok_iff.mp hwritten, hname, Loading.under_eq_ok_iff.mp hexpr⟩
  | list position ih =>
    have hlist : listOf position.read value = .ok result := h
    rw [listOf] at hlist
    split at hlist
    · next items hcontent =>
      exact ⟨items, hcontent, (readItems_eq_ok_iff.mp hlist).imp fun _ _ hitem => ih hitem⟩
    · cases hlist
  | _ => exact h

/-- An answer from a value that is there means that the value has been read. -/
theorem Question.Fits.exists_readAs {question : Question α} {answer : α}
    (hfits : question.Fits parts) (hkey : parts.lookup question.key = some part)
    (hpart : part ≠ .keyword) (hnull : child.isNull = false)
    (hanswer : question.answer (some child) = .ok answer) : ∃ result, part.ReadAs child result := by
  -- Texts and flags are not parts, and no change is made in a word or a target.
  cases question with
  | text _ => cases hfits.symm.trans hkey
  | textIfAny _ => cases hfits.symm.trans hkey
  | flag _ => cases hfits.symm.trans hkey
  | keyword _ => exact absurd (Option.some.inj (hkey.symm.trans hfits)) hpart
  | target _ => exact absurd (Option.some.inj (hkey.symm.trans hfits)) hpart
  | name key =>
    obtain rfl := Option.some.inj (hkey.symm.trans hfits)
    rw [Question.answer, demanded_some hnull] at hanswer
    exact ⟨answer, hanswer⟩
  | part key position =>
    obtain rfl := Option.some.inj (hkey.symm.trans hfits)
    rw [Question.answer, demanded_some hnull, Loading.under_eq_ok_iff] at hanswer
    exact ⟨answer, Position.readAs_of_read hanswer⟩
  | partIfAny key position =>
    obtain rfl := Option.some.inj (hkey.symm.trans hfits)
    -- The part counts, since it is not null.
    rw [Question.answer, hnull, if_neg Bool.false_ne_true] at hanswer
    obtain ⟨result, hresult, _⟩ := Loading.bind_eq_ok_iff.mp hanswer
    exact ⟨result, Position.readAs_of_read (Loading.under_eq_ok_iff.mp hresult)⟩
  | partIfPresent key position =>
    obtain rfl := Option.some.inj (hkey.symm.trans hfits)
    obtain ⟨result, hresult, _⟩ := Loading.bind_eq_ok_iff.mp hanswer
    exact ⟨result, Position.readAs_of_read (Loading.under_eq_ok_iff.mp hresult)⟩
  | listIfPresent key position =>
    obtain rfl := Option.some.inj (hkey.symm.trans hfits)
    rw [Question.answer, Loading.under_eq_ok_iff] at hanswer
    have hlist : (Position.list position).read child = .ok answer := hanswer
    exact ⟨answer, Position.readAs_of_read hlist⟩

/-- A mapping is accepted only if each of its parts is. -/
theorem Position.Parts.exists_readAs (hparts : Position.Parts entries position parts)
    (hcontent : value.content = .mapping entries) (hkey : parts.lookup key = some part)
    (hpart : part ≠ .keyword) (hget : entries.get? key = some child)
    (hnull : child.isNull = false) {result : position.Result}
    (hread : position.ReadAs value result) : ∃ result, part.ReadAs child result := by
  -- A form that came to a result has asked about the key.
  have hform (hbatch : position ≠ .batch) (hpair : position ≠ .pair)
      (hread : position.read value = .ok result) : ∃ result, part.ReadAs child result := by
    obtain ⟨form, hasks, hfits⟩ := hparts.exists_asks hbatch hpair
    rw [hasks.read_eq_run hcontent] at hread
    obtain ⟨γ, question, answer, rfl, hquestion, hanswer⟩ :=
      Form.exists_answer (hparts.asksFor hasks hkey hpart) hfits hread
    rw [hget] at hanswer
    exact hquestion.exists_readAs hkey hpart hnull hanswer
  have hmem := mem_of_lookup hkey
  cases hparts with
  | batch =>
    obtain ⟨rfl, rfl⟩ := Prod.mk.inj (List.mem_singleton.mp hmem)
    obtain ⟨list, hlist, _, hread⟩ := (batchOfValue_mapping_eq_ok_iff hcontent).mp hread
    rw [Option.some.inj (hlist.symm.trans hget)] at hread
    exact ⟨result, hread⟩
  | pair =>
    obtain ⟨rfl, rfl⟩ := Prod.mk.inj (List.mem_singleton.mp hmem)
    obtain ⟨written, hpair, _, hexpr⟩ := hread
    obtain ⟨_, found, hfound, _, hsame⟩ := (exists_entries_iff hcontent).mp hpair
    cases hsame
    rw [Option.some.inj (hfound.symm.trans hget)] at hexpr
    exact ⟨result.2, hexpr⟩
  | statement _ => exact hform nofun nofun hread
  | select => exact hform nofun nofun hread
  | conflict => exact hform nofun nofun hread
  | expression _ => exact hform nofun nofun hread
  | column => exact hform nofun nofun hread
  | table _ => exact hform nofun nofun hread

end Parts

/-! ## At any depth -/

namespace Within

variable {change : Position → Value → Value → Prop} {position : Position} {value value' : Value}

/-- What is refused before it is changed makes everything be refused in which it stands. -/
theorem refused (hkeeps : KeepsAlike excused change)
    (hlist : ∀ {position value value'}, ¬change (.list position) value value')
    (hrefused : ∀ {position value value'}, change position value value' →
      ∀ result, ¬position.ReadAs value result)
    (h : Within change position value value') (result : position.Result) :
    ¬position.ReadAs value result := by
  -- A change inside a list is one in an item, and so the list is there.
  have hcontent_of_list {position : Position} {value value' : Value}
      (h : Within change (.list position) value value') :
      ∃ items, value.content = .list items := by
    cases h with
    | here h => exact absurd h hlist
    | part _ _ _ hparts => cases hparts
    | item hcontent _ _ => exact ⟨_, hcontent⟩
  induction h with
  -- Read as the position of the list says, the changed value would be read as well.
  | here h => exact hrefused h result
  | @part position part parts value value' child child' before after key hcontent _ hfirst hparts
      hkey hchild ih =>
    intro hread
    have hpart : part ≠ .keyword := by
      rintro rfl
      exact hchild.not_keyword hkeeps
    have hget := Entries.get?_append_cons_self child after hfirst
    obtain ⟨found, hfound⟩ := hparts.exists_readAs hcontent hkey hpart hget
      (hchild.alike hkeeps).1 hread
    exact ih found hfound
  | @cell value value' field child child' before after hcontent _ _ ih =>
    intro hread
    -- The cell with the changed value is one of those that were read.
    have hcells := (Position.readAs_row_mapping_iff hcontent).mp hread
    obtain ⟨cell, _, hcell⟩ := exists_mem_of_forall₂ hcells.flip
      (List.mem_append_right before List.mem_cons_self)
    exact ih cell.2 hcell.2
  | item hcontent _ _ ih =>
    rintro ⟨items, hitems, hread⟩
    rw [← Value.list.inj (hcontent.symm.trans hitems)] at hread
    obtain ⟨found, _, hfound⟩ := exists_mem_of_forall₂ hread.flip
      (List.mem_append_right _ List.mem_cons_self)
    exact ih found hfound
  | pairs h ih =>
    obtain ⟨items, hcontent⟩ := hcontent_of_list h
    intro hread
    exact ih result ((Position.readAs_row_list_iff hcontent).mp hread)
  | statements h ih =>
    obtain ⟨items, hcontent⟩ := hcontent_of_list h
    intro hread
    exact ih result ((batchOfValue_list_iff hcontent).mp hread)

end Within

end Document

end SchemaMigration
