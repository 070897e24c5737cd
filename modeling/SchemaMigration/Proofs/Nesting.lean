import SchemaMigration.Proofs.RenderedText

/-!
# The parentheses of rendered text are balanced

A text is read from the left, and the number of parentheses that are open is kept along the way
(`Text.openBehind`). It is balanced when none is closed that is not open and none is left open at
the end (`Text.Balanced`). A balanced text changes nothing for what stands around it
(`Text.Balanced.openBehind_append`), so balanced texts may be put side by side and in parentheses:
being balanced is a property that rendering keeps (`Text.kept_balanced`), and a statement that is
built from balanced texts has a balanced text (`Statement.render_balanced`).
-/

namespace SchemaMigration

namespace Text

/-! ## Open parentheses -/

/-- How many parentheses are open behind the characters when so many are open in front of them;
nothing if one is closed that is not open. -/
def openBehind : Nat → List Char → Option Nat
  | depth, [] => some depth
  | depth, '(' :: rest => openBehind (depth + 1) rest
  | depth + 1, ')' :: rest => openBehind depth rest
  | 0, ')' :: _ => none
  | depth, _ :: rest => openBehind depth rest

/-- No parenthesis is closed before it is opened, and none is open at the end. -/
def Balanced (text : String) : Prop := openBehind 0 text.toList = some 0

instance (text : String) : Decidable (Balanced text) :=
  inferInstanceAs (Decidable (openBehind 0 text.toList = some 0))

theorem openBehind_cons_of_ne {c : Char} (hopen : c ≠ '(') (hclose : c ≠ ')') (depth : Nat)
    (rest : List Char) : openBehind depth (c :: rest) = openBehind depth rest := by
  rw [openBehind]
  · exact fun h => hopen h
  · exact fun _ _ h => hclose h
  · exact fun _ h => hclose h

/-- What follows is read with the parentheses that are open behind the first part. -/
theorem openBehind_append (first second : List Char) (depth : Nat) :
    openBehind depth (first ++ second) =
      (openBehind depth first).bind fun between => openBehind between second := by
  induction first generalizing depth with
  | nil => simp [openBehind]
  | cons c rest ih =>
    -- A parenthesis changes the depth for the rest of the first text only.
    by_cases hopen : c = '('
    · subst hopen
      simp [openBehind, ih]
    by_cases hclose : c = ')'
    · subst hclose
      cases depth with
      | zero => simp [openBehind]
      | succ depth => simp [openBehind, ih]
    · rw [List.cons_append, openBehind_cons_of_ne hopen hclose, openBehind_cons_of_ne hopen hclose]
      exact ih depth

/-- Parentheses that are open around the characters stay open. -/
theorem openBehind_add {chars : List Char} {depth after : Nat}
    (h : openBehind depth chars = some after) (outer : Nat) :
    openBehind (depth + outer) chars = some (after + outer) := by
  -- The depth changes from one character to the next, so the induction is for all depths.
  induction chars generalizing depth with
  | nil =>
    simp only [openBehind, Option.some.injEq] at h ⊢
    omega
  | cons c rest ih =>
    by_cases hopen : c = '('
    · subst hopen
      rw [openBehind] at h ⊢
      have hrest := ih h
      have hdepth : depth + 1 + outer = depth + outer + 1 := by omega
      rwa [hdepth] at hrest
    by_cases hclose : c = ')'
    · subst hclose
      cases depth with
      -- Nothing to close: the characters alone were not read to their end.
      | zero => simp [openBehind] at h
      | succ depth =>
        rw [openBehind] at h
        have hdepth : depth + 1 + outer = depth + outer + 1 := by omega
        rw [hdepth, openBehind]
        exact ih h
    · rw [openBehind_cons_of_ne hopen hclose] at h ⊢
      exact ih h

/-! ## Balanced texts -/

namespace Balanced

variable {first second text : String}

/-- Behind a balanced text, just as many parentheses are open as in front of it. -/
theorem openBehind_append (h : Balanced text) (depth : Nat) (rest : List Char) :
    openBehind depth (text.toList ++ rest) = openBehind depth rest := by
  have htext := openBehind_add h depth
  rw [Nat.zero_add] at htext
  rw [Text.openBehind_append, htext, Option.bind_some]

theorem append (hfirst : Balanced first) (hsecond : Balanced second) :
    Balanced (first ++ second) := by
  unfold Balanced
  rw [String.toList_append, hfirst.openBehind_append]
  exact hsecond

theorem parenthesized (h : Balanced text) : Balanced ("(" ++ text ++ ")") := by
  have hchars : ("(" ++ text ++ ")").toList = '(' :: (text.toList ++ [')']) := by simp
  unfold Balanced
  rw [hchars, openBehind, h.openBehind_append]
  rfl

end Balanced

theorem openBehind_of_plain {chars : List Char} (h : chars.all isPlainChar = true)
    (depth : Nat) : openBehind depth chars = some depth := by
  induction chars with
  | nil => rw [openBehind]
  | cons c rest ih =>
    rw [List.all_cons, Bool.and_eq_true] at h
    -- Neither parenthesis is a plain character.
    have hopen : c ≠ '(' := by
      intro hc
      rw [hc] at h
      exact absurd h.1 (by decide)
    have hclose : c ≠ ')' := by
      intro hc
      rw [hc] at h
      exact absurd h.1 (by decide)
    rw [openBehind_cons_of_ne hopen hclose]
    exact ih h.2

/-- A text without any parenthesis is balanced. -/
theorem balanced_of_plain {text : String} (h : text.toList.all isPlainChar = true) :
    Balanced text := openBehind_of_plain h 0

/-- Rendering opens no parenthesis that it does not close, nor the other way round. -/
theorem kept_balanced : Kept Balanced where
  append := Balanced.append
  parenthesized := Balanced.parenthesized
  plain := balanced_of_plain

end Text

open Text

/-! ## Statements -/

/-- **Rendered parentheses are balanced.** A statement that is built from balanced texts has a
balanced text, whatever of it is empty and however deep its parts are nested. -/
theorem Statement.render_balanced (s : Statement) (h : ∀ leaf ∈ s.leaves, Balanced leaf) :
    Balanced s.render :=
  s.kept_render kept_balanced h

/-- A type with a length, a default that calls a function, a check and a foreign key, in the body of
a table: leaves with parentheses of their own stand next to those that are rendered. -/
theorem render_balanced_prices :
    let prices : Statement := .create .table (.qualified "shop" "prices")
      (some (.tableBody
        [.define (.name "amount") (.name "numeric(10, 2)")
          [.binary (.literal "default") "" (.literal "coalesce(round(1.5), (0))"), .literal ""],
        .define (.name "item") (.name "") [.references (.name "shop.items") "id" "" "cascade",
          .binary (.literal "check") "" (.literal "(length(item) > 0)")]])) true
    (∀ leaf ∈ prices.leaves, Balanced leaf) ∧ Balanced prices.render := by
  intro prices
  have hleaves : ∀ leaf ∈ prices.leaves, Balanced leaf := by decide
  exact ⟨hleaves, prices.render_balanced hleaves⟩

end SchemaMigration
