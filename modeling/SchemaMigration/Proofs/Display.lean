import Mathlib.Logic.Basic
import SchemaMigration.Value.Display

/-!
# The text of a value that counts as present

A document tells an absent container from a given one by whether its value counts as present, and
then goes on with the text of that value. Every value but the empty text is written with at least
one character: a number has a digit, a collection has its brackets, a date has its dashes. Hence the
text of a value that counts as present is never empty (`Value.display_ne_empty`).
-/

namespace SchemaMigration

/-! ## Parts of a text -/

namespace Text

theorem append_ne_empty_of_left {first : String} (h : first ≠ "") (second : String) :
    first ++ second ≠ "" := by
  intro hempty
  exact h (String.append_eq_empty_iff.mp hempty).1

theorem append_ne_empty_of_right (first : String) {second : String} (h : second ≠ "") :
    first ++ second ≠ "" := by
  intro hempty
  exact h (String.append_eq_empty_iff.mp hempty).2

theorem ofList_ne_empty {chars : List Char} (h : chars ≠ []) : String.ofList chars ≠ "" := by
  intro hempty
  exact h (String.ofList_eq_empty_iff.mp hempty)

theorem quotedCodePoints_ne_empty (text : List CodePoint) : quotedCodePoints text ≠ "" :=
  ofList_ne_empty (List.cons_ne_nil _ _)

theorem quotedBytes_ne_empty (bytes : List UInt8) : quotedBytes bytes ≠ "" :=
  ofList_ne_empty (List.cons_ne_nil _ _)

end Text

/-! ## Scalars -/

theorem Decimal.render_ne_empty (layout : Decimal.Layout) (d : Decimal) :
    d.render layout ≠ "" := by
  unfold Decimal.render
  refine Text.ofList_ne_empty ?_
  -- Each layout writes a point or an exponent, however many digits there are.
  split
  · split
    · simp
    · split
      · simp
      · simp
  · simp

theorem Double.render_ne_empty (x : Double) : x.render ≠ "" := by
  -- What is no number is written in letters.
  cases x with
  | nan => decide
  | infinite negative => cases negative <;> decide
  | finite negative mantissa exponent =>
    rw [Double.render]
    refine Text.append_ne_empty_of_right _ ?_
    split
    · decide
    · exact Decimal.render_ne_empty _ _

theorem toString_int_ne_empty (n : Int) : toString n ≠ "" := by
  cases n with
  | ofNat n => exact Nat.repr_ne_empty
  | negSucc n => exact Text.append_ne_empty_of_left (by decide) _

theorem Date.render_ne_empty (date : Date) : date.render ≠ "" := by
  unfold Date.render
  refine Text.append_ne_empty_of_left ?_ _
  exact Text.append_ne_empty_of_right _ (by decide)

theorem Clock.render_ne_empty (clock : Clock) : clock.render ≠ "" := by
  unfold Clock.render
  refine Text.append_ne_empty_of_left ?_ _
  refine Text.append_ne_empty_of_left ?_ _
  exact Text.append_ne_empty_of_right _ (by decide)

theorem Moment.render_ne_empty (moment : Moment) : moment.render ≠ "" := by
  unfold Moment.render
  refine Text.append_ne_empty_of_left ?_ _
  refine Text.append_ne_empty_of_left ?_ _
  exact Text.append_ne_empty_of_right _ (by decide)

theorem Moment.literal_ne_empty (moment : Moment) : moment.literal ≠ "" := by
  unfold Moment.literal
  exact Text.append_ne_empty_of_right _ (by decide)

/-! ## Values -/

namespace Value

theorem ellipsis_ne_empty (value : Value) : value.ellipsis ≠ "" := by
  unfold ellipsis
  split
  · decide
  · decide

/-- The form of a value inside a collection is never empty, not even that of the empty text. -/
theorem literalWithin_ne_empty :
    ∀ (outer : List Nat) (value : Value), value.literalWithin outer ≠ ""
  | _, .null => by rw [literalWithin]; decide
  | _, .bool b => by cases b <;> rw [literalWithin] <;> decide
  | _, .int n => by rw [literalWithin]; exact toString_int_ne_empty n
  | _, .float x => by rw [literalWithin]; exact x.render_ne_empty
  | _, .text s => by rw [literalWithin]; exact Text.quotedCodePoints_ne_empty _
  | _, .brokenText codes => by rw [literalWithin]; exact Text.quotedCodePoints_ne_empty codes
  | _, .bytes data => by rw [literalWithin]; exact Text.quotedBytes_ne_empty data
  | _, .date d => by rw [literalWithin]; exact Text.append_ne_empty_of_right _ (by decide)
  | _, .moment m => by rw [literalWithin]; exact m.literal_ne_empty
  | _, .clock c => by rw [literalWithin]; exact Text.append_ne_empty_of_right _ (by decide)
  | _, .list items => by rw [literalWithin]; exact Text.append_ne_empty_of_right _ (by decide)
  | _, .mapping entries => by
    rw [literalWithin]
    exact Text.append_ne_empty_of_right _ (by decide)
  | _, .set members => by
    rw [literalWithin]
    split
    · decide
    · exact Text.append_ne_empty_of_right _ (by decide)
  | _, .pair first second => by
    rw [literalWithin]
    exact Text.append_ne_empty_of_right _ (by decide)
  | outer, .looped id ⟨collection⟩ => by
    rw [literalWithin]
    split
    · exact ellipsis_ne_empty _
    · exact literalWithin_ne_empty (id :: outer) (collection ())

/-- The text of a value that counts as present is not empty. -/
theorem display_ne_empty {value : Value} (h : value.isTruthy = true) : value.display ≠ "" := by
  cases value with
  | text s => simpa [isTruthy, display] using h
  | brokenText codes =>
    rw [display]
    refine Text.ofList_ne_empty ?_
    intro hempty
    rw [List.map_eq_nil_iff.mp hempty] at h
    cases h
  | date d => exact d.render_ne_empty
  | moment m => exact m.render_ne_empty
  | clock c => exact c.render_ne_empty
  | _ => exact literalWithin_ne_empty [] _

end Value

end SchemaMigration
