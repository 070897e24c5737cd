import SchemaMigration.Proofs.Resolution

/-!
# When two identifiers name the same object

The text of an identifier that resolves is its schema, a dot and its object. Which of the dots in
the text that is depends on the spelling: a plain name is divided at its first dot, and a qualified
name behind its container, however many dots are in it. The text and the number of dots in front of
the division tell the two parts, and the two parts tell both (`Identifier.same_object_iff`). So
among plain names and containers without dots, one text is one object. A container with dots can
give a text to a second object (`Identifier.one_text_two_objects`).
-/

namespace SchemaMigration.Identifier

/-- How many dots stand in front of the one at which the identifier is divided. -/
def dotsBefore : Identifier → Nat
  | name _ => 0
  | qualified container _ => container.toList.count '.'

/-- A text is divided in one way only when it is said how many dots stand in front. -/
theorem append_cons_inj_of_count {c : Char} {front front' back back' : List Char}
    (h : front ++ c :: back = front' ++ c :: back') (hcount : front.count c = front'.count c) :
    front = front' ∧ back = back' := by
  induction front generalizing front' with
  | nil =>
    cases front' with
    | nil => simpa using h
    | cons d rest =>
      -- The other division would have the dot itself in front.
      simp only [List.nil_append, List.cons_append, List.cons.injEq] at h
      rw [← h.1, List.count_nil, List.count_cons_self] at hcount
      omega
  | cons d rest ih =>
    cases front' with
    -- And the same the other way round.
    | nil =>
      simp only [List.nil_append, List.cons_append, List.cons.injEq] at h
      rw [h.1, List.count_nil, List.count_cons_self] at hcount
      omega
    | cons d' rest' =>
      simp only [List.cons_append, List.cons.injEq] at h
      obtain ⟨rfl, hrest⟩ := h
      have hcount' : rest.count c = rest'.count c := by
        simpa [List.count_cons] using hcount
      obtain ⟨hfront, hback⟩ := ih hrest hcount'
      exact ⟨by rw [hfront], hback⟩

section Resolved

variable {target : Target} {i : Identifier} {parts : Resolved}

/-- An object's text has the dot of the division in it. -/
theorem render_eq_of_resolve (htarget : target ≠ .schema) (h : i.resolve target = .ok parts) :
    i.render.toList = parts.1.toList ++ '.' :: parts.2.toList := by
  rcases render_of_resolve h with hrender | ⟨_, hempty⟩
  · rw [hrender]
    simp
  · -- Only a schema is named without an object.
    exact absurd hempty (parts_ne_empty_of_resolve htarget h).2

theorem count_schema_of_resolve (htarget : target ≠ .schema) (h : i.resolve target = .ok parts) :
    parts.1.toList.count '.' = i.dotsBefore := by
  cases i with
  | name text =>
    rcases resolve_name_eq_ok_iff.mp h with ⟨before, after, hsplit, _, _, rfl⟩ | ⟨_, hschema, _⟩
    -- A plain name is split at its first dot, so none stands in front.
    · have hdot : '.' ∉ before := (splitAtDot_eq_some_iff.mp hsplit).2
      simpa [dotsBefore] using List.count_eq_zero.mpr hdot
    · exact absurd hschema htarget
  | qualified container base =>
    obtain ⟨_, _, rfl⟩ := resolve_qualified_eq_ok_iff.mp h
    rfl

end Resolved

/-- **One object, one key.** Two identifiers resolve to the same schema and object just when they
have the same text and are divided behind the same number of dots. -/
theorem same_object_iff {target : Target} {i j : Identifier} {parts parts' : Resolved}
    (htarget : target ≠ .schema) (hi : i.resolve target = .ok parts)
    (hj : j.resolve target = .ok parts') :
    parts = parts' ↔ i.render = j.render ∧ i.dotsBefore = j.dotsBefore := by
  have hrender := render_eq_of_resolve htarget hi
  have hrender' := render_eq_of_resolve htarget hj
  have hcount := count_schema_of_resolve htarget hi
  have hcount' := count_schema_of_resolve htarget hj
  constructor
  · intro h
    subst h
    exact ⟨String.toList_inj.mp (hrender.trans hrender'.symm), hcount.symm.trans hcount'⟩
  -- The texts agree with their dots put back, and the dots in front fix the division.
  · intro h
    obtain ⟨htext, hdots⟩ := h
    rw [htext, hrender'] at hrender
    have hsame : parts'.1.toList.count '.' = parts.1.toList.count '.' := by
      rw [hcount, hcount', hdots]
    obtain ⟨hschema, hobject⟩ := append_cons_inj_of_count hrender hsame
    exact Prod.ext (String.toList_inj.mp hschema.symm) (String.toList_inj.mp hobject.symm)

/-- An index whose name has three words, in both spellings. -/
theorem same_object_of_index :
    (qualified "a" "b.c").resolve .index = .ok ("a", "b.c") ∧
      (name "a.b.c").resolve .index = .ok ("a", "b.c") ∧
      (qualified "a" "b.c").render = (name "a.b.c").render ∧
      (qualified "a" "b.c").dotsBefore = (name "a.b.c").dotsBefore := by
  have hqualified : (qualified "a" "b.c").resolve .index = .ok ("a", "b.c") := rfl
  have hname : (name "a.b.c").resolve .index = .ok ("a", "b.c") := rfl
  exact ⟨hqualified, hname, (same_object_iff (by decide) hqualified hname).mp rfl⟩

/-- A container of two words takes the second word into the schema; the plain name leaves it to the
object. -/
theorem one_text_two_objects :
    (qualified "a.b" "c").resolve .table = .ok ("a.b", "c") ∧
      (name "a.b.c").resolve .table = .ok ("a", "b.c") ∧
      (qualified "a.b" "c").render = (name "a.b.c").render ∧
      (("a.b", "c") : Resolved) ≠ ("a", "b.c") :=
  ⟨rfl, rfl, rfl, by decide⟩

end SchemaMigration.Identifier
