import SchemaMigration.Batch.Edit
import SchemaMigration.Batch.Script
import SchemaMigration.Proofs.RenderedText

/-!
# The lines of a script

A script has one line for each statement, and it can be taken apart again at its line ends: what
comes out are the statements with their terminator, and an empty rest (`Batch.lines_script`). For
that no statement may have a line end of its own. Rendering writes none, so it is enough that the
texts that a statement is built from have none (`Statement.oneLine_render`).

The terminator may well stand inside a statement. Only line ends tell where one statement ends and
the next begins.
-/

namespace SchemaMigration

namespace Text

/-- The text has no line end. -/
def OneLine (text : String) : Prop := '\n' ∉ text.toList

instance (text : String) : Decidable (OneLine text) := inferInstanceAs (Decidable (_ ∉ _))

theorem OneLine.append {first second : String} (hfirst : OneLine first) (hsecond : OneLine second) :
    OneLine (first ++ second) := by
  unfold OneLine
  rw [String.toList_append, List.mem_append]
  exact not_or.mpr ⟨hfirst, hsecond⟩

/-- Rendering writes no line end. -/
theorem kept_oneLine : Kept OneLine where
  append := OneLine.append
  parenthesized := by
    intro text h
    have hopening : OneLine "(" := by decide
    have hclosing : OneLine ")" := by decide
    exact (hopening.append h).append hclosing
  plain := by
    -- A line end is no plain character.
    intro text h hmem
    exact absurd (List.all_eq_true.mp h '\n' hmem) (by decide)

/-- The pieces of a text that its line ends divide it into. -/
def lines (text : String) : List String := (text.split '\n').toList.map String.Slice.copy

theorem lines_eq (text : String) : lines text = (text.toList.splitOn '\n').map String.ofList :=
  String.toList_split_char

theorem lines_empty : lines "" = [""] := by
  rw [lines_eq]
  rfl

/-- Whatever follows the first line end is divided by itself. -/
theorem lines_append_newline {line : String} (h : OneLine line) (rest : String) :
    lines (line ++ "\n" ++ rest) = line :: lines rest := by
  have hchars : (line ++ "\n" ++ rest).toList = line.toList ++ '\n' :: rest.toList := by simp
  rw [lines_eq, hchars, List.splitOn_append_cons_self_of_not_mem h, List.map_cons,
    String.ofList_toList, lines_eq]

end Text

open Text

/-- A statement that is built from texts without line ends is rendered on one line. -/
theorem Statement.oneLine_render {s : Statement} (h : ∀ leaf ∈ s.leaves, OneLine leaf) :
    OneLine s.render :=
  s.kept_render kept_oneLine h

namespace Batch

/-- No text in the batch has a line end. -/
def OneLined (batch : Batch) : Prop := ∀ s ∈ batch, ∀ leaf ∈ s.leaves, OneLine leaf

instance (batch : Batch) : Decidable batch.OneLined :=
  inferInstanceAs (Decidable (∀ s ∈ batch, ∀ leaf ∈ s.leaves, OneLine leaf))

variable {terminator : String} {batch : Batch}

theorem script_cons (terminator : String) (s : Statement) (rest : Batch) :
    script terminator (s :: rest) = s.render ++ terminator ++ "\n" ++ rest.script terminator := by
  rw [script, List.map_cons, String.join_cons]
  rfl

/-- Induction over the batch: the script ends its first line behind the first statement, and its
rest is the script of the other statements. -/
theorem lines_script (hterminator : OneLine terminator) (h : batch.OneLined) :
    lines (batch.script terminator) = (batch.map fun s => s.render ++ terminator) ++ [""] := by
  induction batch with
  | nil => exact lines_empty
  | cons s rest ih =>
    -- Up to the first line end stands the first statement, the rest is the script of the others.
    obtain ⟨hs, hrest⟩ := List.forall_mem_cons.mp h
    have hline : OneLine (s.render ++ terminator) :=
      (Statement.oneLine_render hs).append hterminator
    rw [script_cons, lines_append_newline hline, ih hrest, List.map_cons, List.cons_append]

/-- A statement that is put into a batch adds its line, and the lines of the others stay. -/
theorem script_insertAt (terminator : String) (batch : Batch) (place : Nat) (s : Statement) :
    (batch.insertAt place s).script terminator =
      script terminator (batch.take place) ++ scriptLine terminator s.render ++
        script terminator (batch.drop place) := by
  rw [insertAt_eq, script, script, script, List.map_append, List.map_cons, String.join_append,
    String.join_cons, String.append_assoc]

/-- A script depends on the texts of the statements alone. -/
theorem script_eq_join_map_render (terminator : String) (batch : Batch) :
    batch.script terminator =
      String.join ((batch.map Statement.render).map (scriptLine terminator)) := by
  rw [script, List.map_map]
  rfl

/-- The lines of a script tell the statements, since the terminator behind them is known. -/
theorem map_render_eq_of_script_eq {other : Batch} (hterminator : OneLine terminator)
    (hbatch : batch.OneLined) (hother : other.OneLined)
    (h : batch.script terminator = other.script terminator) :
    batch.map Statement.render = other.map Statement.render := by
  have hlines : (batch.map fun s => s.render ++ terminator) ++ [""] =
      (other.map fun s => s.render ++ terminator) ++ [""] := by
    rw [← lines_script hterminator hbatch, ← lines_script hterminator hother, h]
  have hterminated : (batch.map Statement.render).map (· ++ terminator) =
      (other.map Statement.render).map (· ++ terminator) := by
    rw [List.map_map, List.map_map]
    exact List.append_cancel_right hlines
  -- A terminator at the end can be taken off again, whatever it is.
  have hinjective : Function.Injective (· ++ terminator) := by
    intro first second hsame
    exact (String.append_left_inj terminator).mp hsame
  exact List.map_injective_iff.mpr hinjective hterminated

/-- **A script can be taken apart.** At its line ends it falls into the line of each statement, in
order, and an empty rest. So the scripts of two batches with the same terminator are the same only
if their statements are written alike. -/
theorem script_taken_apart (hterminator : OneLine terminator) (hbatch : batch.OneLined) :
    lines (batch.script terminator) = (batch.map fun s => s.render ++ terminator) ++ [""] ∧
      ∀ other : Batch, other.OneLined →
        (batch.script terminator = other.script terminator ↔
          batch.map Statement.render = other.map Statement.render) := by
  refine ⟨lines_script hterminator hbatch, fun other hother =>
    ⟨map_render_eq_of_script_eq hterminator hbatch hother, fun h => ?_⟩⟩
  rw [script_eq_join_map_render, script_eq_join_map_render, h]

end Batch

/-- Two statements with the terminator inside: a literal that holds it, and a check that ends with
it. -/
theorem script_taken_apart_semicolons :
    let batch : Batch :=
      [.insert ⟨.name "app.notes", ""⟩ [("body", .literal "'a; b;'")] none,
        .alter .table (.qualified "app" "notes")
          (.addConstraint (.name "short") (.literal "check (length(body) < 9);"))]
    let other : Batch := [.drop .table (.name "app.notes")]
    OneLine ";" ∧ batch.OneLined ∧ other.OneLined ∧
      lines (batch.script ";") =
        ["insert into app.notes (body) values ('a; b;');",
          "alter table app.notes add constraint short check (length(body) < 9);;", ""] ∧
      batch.script ";" ≠ other.script ";" := by
  intro batch other
  have hterminator : OneLine ";" := by decide
  have hbatch : batch.OneLined := by decide
  have hother : other.OneLined := by decide
  obtain ⟨hlines, hsame⟩ := Batch.script_taken_apart hterminator hbatch
  refine ⟨hterminator, hbatch, hother, ?_, ?_⟩
  · -- With its lines known, the script is compared line by line.
    rw [hlines]
    decide
  · rw [Ne, hsame other hother]
    decide

end SchemaMigration
