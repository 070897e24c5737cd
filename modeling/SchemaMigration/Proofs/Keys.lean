import Mathlib.Data.Finset.Card
import SchemaMigration.ObjectKey

/-!
# Sequences of keys and the first failure among them

`Keys.append` runs two computations of keys one after the other and `Keys.concat` runs a whole list
of them. What is shown here is what callers need in order not to unfold either again:

* `Keys.append` is associative with the empty sequence as its unit, and `Keys.concat` turns a
  concatenation of lists into an `append` (`Keys.concat_append`);
* when every part succeeds, so does the whole, with the keys of the parts one after the other
  (`Keys.concat_eq_ok`);
* when some part fails, the whole fails with the error of the leftmost such part
  (`Keys.concat_eq_error`).

A sequence may hold a key more than once; `ObjectKey.countDistinct_eq_card` tells how many different
ones there are.
-/

namespace SchemaMigration

namespace Keys

/-! ## Two parts -/

@[simp] theorem append_error (error : Identifier.Unresolvable) (second : Keys) :
    append (.error error) second = .error error := rfl

@[simp] theorem append_ok_ok (first second : List ObjectKey) :
    append (.ok first) (.ok second) = .ok (first ++ second) := rfl

@[simp] theorem append_ok_error (first : List ObjectKey) (error : Identifier.Unresolvable) :
    append (.ok first) (.error error) = .error error := rfl

@[simp] theorem nil_append (keys : Keys) : append (.ok []) keys = keys := by
  cases keys with
  | ok keys => rfl
  | error error => rfl

@[simp] theorem append_nil (keys : Keys) : append keys (.ok []) = keys := by
  cases keys with
  | ok keys => rw [append_ok_ok, List.append_nil]
  | error error => rfl

theorem append_assoc (first second third : Keys) :
    append (append first second) third = append first (append second third) := by
  -- The first failure decides, so what comes behind it does not matter.
  cases first with
  | error error => rfl
  | ok first =>
    cases second with
    | error error => rfl
    | ok second =>
      cases third with
      | error error => rfl
      | ok third => simp only [append_ok_ok, List.append_assoc]

/-! ## A list of parts

The list is walked from the left. A part that succeeds puts its keys in front of what the rest
gives, and a part that fails hides the rest. -/

@[simp] theorem concat_nil : concat [] = .ok [] := rfl

@[simp] theorem concat_cons (first : Keys) (rest : List Keys) :
    concat (first :: rest) = append first (concat rest) := rfl

/-- Running two lists of parts one after the other is running them as one list. -/
theorem concat_append (before after : List Keys) :
    concat (before ++ after) = append (concat before) (concat after) := by
  induction before with
  | nil => rw [List.nil_append, concat_nil, nil_append]
  | cons first rest ih => rw [List.cons_append, concat_cons, concat_cons, ih, append_assoc]

/-- The keys of parts that all succeed stand one after the other, with their duplicates. -/
theorem concat_eq_ok {α : Type} (parts : List α) (run : α → Keys) (own : α → List ObjectKey)
    (h : ∀ part ∈ parts, run part = .ok (own part)) :
    concat (parts.map run) = .ok (parts.flatMap own) := by
  induction parts with
  | nil => rfl
  | cons part rest ih =>
    have hpart : run part = .ok (own part) := h part List.mem_cons_self
    have hrest := ih fun later hlater => h later (List.mem_cons_of_mem part hlater)
    rw [List.map_cons, concat_cons, hpart, hrest, append_ok_ok, List.flatMap_cons]

/-- The leftmost part that fails gives the error of the whole. -/
theorem concat_eq_error {before after : List Keys} {error : Identifier.Unresolvable}
    (h : ∀ part ∈ before, ∃ keys, part = .ok keys) :
    concat (before ++ .error error :: after) = .error error := by
  induction before with
  | nil => rw [List.nil_append, concat_cons, append_error]
  | cons part rest ih =>
    obtain ⟨keys, rfl⟩ := h part List.mem_cons_self
    have hrest := ih fun later hlater => h later (List.mem_cons_of_mem (.ok keys) hlater)
    rw [List.cons_append, concat_cons, hrest, append_ok_error]

/-- Every key of the whole is a key of one of the parts. -/
theorem mem_of_concat_eq_ok {parts : List Keys} {keys : List ObjectKey} {key : ObjectKey}
    (h : concat parts = .ok keys) (hkey : key ∈ keys) :
    ∃ own, .ok own ∈ parts ∧ key ∈ own := by
  induction parts generalizing keys with
  | nil =>
    cases h
    exact absurd hkey List.not_mem_nil
  | cons part rest ih =>
    rw [concat_cons] at h
    cases part with
    -- The whole succeeds only if each part does.
    | error error => cases h
    | ok own =>
      cases hrest : concat rest with
      | error error =>
        rw [hrest] at h
        cases h
      | ok others =>
        rw [hrest, append_ok_ok] at h
        cases h
        rcases List.mem_append.mp hkey with hown | hothers
        · exact ⟨own, List.mem_cons_self, hown⟩
        · obtain ⟨own', hmem, hkey'⟩ := ih hrest hothers
          exact ⟨own', List.mem_cons_of_mem _ hmem, hkey'⟩

end Keys

/-! ## Different keys -/

namespace ObjectKey

/-- Of each key one is left. The recursion is on the length of the list, since what is looked at
next is what a filter leaves of its rest. -/
theorem nodup_eraseDups : ∀ keys : List ObjectKey, keys.eraseDups.Nodup
  | [] => List.nodup_nil
  | first :: rest => by
    rw [List.eraseDups_cons, List.nodup_cons]
    exact ⟨by simp, nodup_eraseDups _⟩
  termination_by keys => keys.length
  decreasing_by exact Nat.lt_succ_of_le (List.length_filter_le _ rest)

/-- As many keys are counted as there are different ones. -/
theorem countDistinct_eq_card (keys : List ObjectKey) :
    countDistinct keys = keys.toFinset.card := by
  have hsame : keys.eraseDups.toFinset = keys.toFinset := Finset.ext fun key => by simp
  rw [countDistinct, ← List.toFinset_card_of_nodup (nodup_eraseDups keys), hsame]

end ObjectKey

end SchemaMigration
