import Mathlib.Logic.Basic
import SchemaMigration.Identifier

/-!
# What an identifier resolves to

A plain name is split at its first dot and a qualified name is split already. For each spelling one
lemma says exactly when it resolves and to which parts; from the two follows that an object of a
schema never resolves to an empty schema or to an empty object. The split is undone by putting the
dot back (`Identifier.splitAtDot_eq_some_iff`), so the parts that a name resolves to make up its
text (`Identifier.render_of_resolve`).
-/

namespace SchemaMigration.Identifier

/-- The identifiers that are written with their schema are the selectors and the dotted names. -/
theorem isQualified_iff (i : Identifier) :
    i.isQualified = true ↔
      (∃ container base, i = .qualified container base) ∨
        ∃ text, i = .name text ∧ '.' ∈ text.toList := by
  cases i with
  | name text => simp [isQualified, isDotted]
  | qualified container base => simp [isQualified]

/-- A qualified name resolves to its own parts. Only a schema may lack the second one. -/
theorem resolve_qualified_eq_ok_iff {target : Target} {container base : String} {parts : Resolved} :
    (qualified container base).resolve target = .ok parts ↔
      container ≠ "" ∧ (base ≠ "" ∨ target = .schema) ∧ parts = (container, base) := by
  simp only [resolve]
  -- Both parts are checked, the schema first.
  by_cases hcontainer : container = ""
  · simp [hcontainer]
  · by_cases hbase : base = "" ∧ target ≠ .schema
    · simp [hcontainer, hbase]
    · have hbase' : base ≠ "" ∨ target = .schema := by
        rwa [not_and_or, not_not] at hbase
      rw [if_neg hcontainer, if_neg hbase, Except.ok.injEq]
      simp only [ne_eq, hcontainer, not_false_eq_true, hbase', true_and]
      exact eq_comm

/-- A plain name resolves to what stands in front of its first dot and behind it, if neither is
empty. A name without a dot is a schema, where one is asked for. -/
theorem resolve_name_eq_ok_iff {target : Target} {text : String} {parts : Resolved} :
    (name text).resolve target = .ok parts ↔
      (∃ before after, splitAtDot text.toList = some (before, after) ∧ before ≠ [] ∧ after ≠ [] ∧
        parts = (String.ofList before, String.ofList after)) ∨
      (splitAtDot text.toList = none ∧ target = .schema ∧ parts = (text, "")) := by
  simp only [resolve]
  cases hsplit : splitAtDot text.toList with
  -- Without a dot the text is the schema itself, and nothing else has such a name.
  | none =>
    by_cases htarget : target = .schema
    · simp [htarget, eq_comm]
    · simp [htarget]
  | some halves =>
    obtain ⟨before, after⟩ := halves
    dsimp only
    -- With a dot the target plays no part, only the two halves do.
    by_cases hempty : before = [] ∨ after = []
    · rw [if_pos hempty]
      rcases hempty with rfl | rfl
      · simp
      · simp
    · obtain ⟨hbefore, hafter⟩ := not_or.mp hempty
      rw [if_neg hempty, Except.ok.injEq]
      constructor
      · intro hparts
        exact .inl ⟨before, after, rfl, hbefore, hafter, hparts.symm⟩
      · rintro (⟨_, _, hhalves, _, _, hparts⟩ | ⟨hnone, _⟩)
        · cases hhalves
          exact hparts.symm
        · cases hnone

/-- An identifier that resolves as anything but a schema has both parts. -/
theorem parts_ne_empty_of_resolve {target : Target} {i : Identifier} {parts : Resolved}
    (htarget : target ≠ .schema) (h : i.resolve target = .ok parts) :
    parts.1 ≠ "" ∧ parts.2 ≠ "" := by
  cases i with
  -- Either the name was split at a dot, or it is the name of a schema, which is excluded.
  | name text =>
    rcases resolve_name_eq_ok_iff.mp h with ⟨before, after, _, hbefore, hafter, rfl⟩ | ⟨_, hs, _⟩
    · exact ⟨fun hempty => hbefore (String.ofList_eq_empty_iff.mp hempty),
        fun hempty => hafter (String.ofList_eq_empty_iff.mp hempty)⟩
    · exact absurd hs htarget
  | qualified container base =>
    obtain ⟨hcontainer, hbase, rfl⟩ := resolve_qualified_eq_ok_iff.mp h
    exact ⟨hcontainer, hbase.resolve_right htarget⟩

/-! ## Where a plain name is split -/

/-- A text is split at its first dot: no dot stands in front of it. -/
theorem splitAtDot_eq_some_iff {text before after : List Char} :
    splitAtDot text = some (before, after) ↔ text = before ++ '.' :: after ∧ '.' ∉ before := by
  induction text generalizing before with
  | nil => simp [splitAtDot]
  | cons c rest ih =>
    rw [splitAtDot]
    by_cases hc : c = '.'
    · -- The first dot is the head of the text, so nothing stands in front of it.
      rw [if_pos hc, Option.some.injEq, Prod.mk.injEq]
      constructor
      · rintro ⟨rfl, rfl⟩
        exact ⟨by rw [hc, List.nil_append], List.not_mem_nil⟩
      · rintro ⟨htext, hdot⟩
        cases before with
        | nil =>
          rw [List.nil_append, List.cons.injEq] at htext
          exact ⟨rfl, htext.2⟩
        | cons d more =>
          rw [List.cons_append, List.cons.injEq] at htext
          exact absurd (List.mem_cons.mpr (.inl (hc.symm.trans htext.1))) hdot
    · rw [if_neg hc, Option.map_eq_some_iff]
      constructor
      · rintro ⟨⟨front, back⟩, hsplit, hparts⟩
        obtain ⟨rfl, rfl⟩ := Prod.mk.inj hparts
        obtain ⟨rfl, hdot⟩ := ih.mp hsplit
        refine ⟨rfl, ?_⟩
        rw [List.mem_cons, not_or]
        exact ⟨fun h => hc h.symm, hdot⟩
      · rintro ⟨htext, hdot⟩
        -- The text starts with another character, so the part in front of the dot does too.
        cases before with
        | nil =>
          rw [List.nil_append, List.cons.injEq] at htext
          exact absurd htext.1 hc
        | cons d more =>
          rw [List.cons_append, List.cons.injEq] at htext
          rw [List.mem_cons, not_or] at hdot
          obtain ⟨rfl, hrest⟩ := htext
          exact ⟨(more, after), ih.mpr ⟨hrest, hdot.2⟩, rfl⟩

/-- Only a text without a dot is not split. -/
theorem splitAtDot_eq_none_iff {text : List Char} : splitAtDot text = none ↔ '.' ∉ text := by
  induction text with
  | nil => simp [splitAtDot]
  | cons c rest ih =>
    rw [splitAtDot, List.mem_cons, not_or]
    by_cases hc : c = '.'
    · rw [if_pos hc]
      exact iff_of_false nofun fun h => h.1 hc.symm
    · rw [if_neg hc, Option.map_eq_none_iff, ih]
      exact ⟨fun h => ⟨fun heq => hc heq.symm, h⟩, And.right⟩

/-- The parts of an identifier stand in its text as they are: with a dot between them, or the
schema alone. -/
theorem render_of_resolve {target : Target} {i : Identifier} {parts : Resolved}
    (h : i.resolve target = .ok parts) :
    i.render = parts.1 ++ "." ++ parts.2 ∨ (i.render = parts.1 ∧ parts.2 = "") := by
  cases i with
  | name text =>
    -- The halves with the dot put back between them are the text.
    rcases resolve_name_eq_ok_iff.mp h with ⟨before, after, hsplit, _, _, rfl⟩ | ⟨_, _, rfl⟩
    · obtain ⟨htext, _⟩ := splitAtDot_eq_some_iff.mp hsplit
      left
      rw [render, ← String.toList_inj, htext]
      simp
    · exact .inr ⟨rfl, rfl⟩
  | qualified container base =>
    obtain ⟨_, _, rfl⟩ := resolve_qualified_eq_ok_iff.mp h
    exact .inl rfl

end SchemaMigration.Identifier
