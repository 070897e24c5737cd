import SchemaMigration.Proofs.LoggedSteps
import SchemaMigration.Settings.Load

/-!
# Where settings are looked for

A file gives the top table of its document; one that is absent, cannot be read or is malformed gives
nothing (`SourceFile.Gives`). A look at a file ends with its table of settings, with no table, or
with a fault that ends the whole search (`SourceFile.look`). These faults are told apart by what
stands in the file (`SourceFile.look_eq_error_iff`).

The search takes the table of the first file that has one (`tableFrom_cons`). Where the entries for
tools and for these settings are tables, nothing ends it, and the top tables alone tell what it
finds (`tableFrom_eq_chosen`).
-/

namespace SchemaMigration.Settings

/-! ## What a file gives -/

namespace SourceFile

variable {tree : FileTree} {root : FilePath} {file : SourceFile} {chars : List Char}
  {top : Entries} {reason : String} {fault : Fault}

def path (file : SourceFile) (root : FilePath) : FilePath := root.child file.name

/-- The bytes of the file are a text. -/
structure HasText (tree : FileTree) (root : FilePath) (file : SourceFile) (bytes : List UInt8)
    (chars : List Char) : Prop where
  read_eq : tree.read (file.path root) = .ok bytes
  text_eq : Text.ofUtf8 bytes = .ok chars

/-- The file is there, but it cannot be read, or its text is malformed. -/
inductive Unusable (tree : FileTree) (root : FilePath) (file : SourceFile) : String → Prop where
  | unreadable {entry : FileEntry} {error : FileError}
      (hfind : tree.find? (file.path root) = .ok (some entry))
      (h : tree.read (file.path root) = .error error) : Unusable tree root file error.message
  | malformed {bytes : List UInt8} {chars : List Char} (htext : HasText tree root file bytes chars)
      (h : Toml.read chars = .error .malformed) :
      Unusable tree root file "the text is not well-formed"

/-- The top table of the document in a file, or nothing. -/
inductive Gives (tree : FileTree) (root : FilePath) (file : SourceFile) :
    Option Entries → Prop where
  | absent (h : tree.find? (file.path root) = .ok none) : Gives tree root file none
  | unusable {reason : String} (h : Unusable tree root file reason) : Gives tree root file none
  | document {bytes : List UInt8} {chars : List Char} {top : Entries}
      (htext : HasText tree root file bytes chars) (h : Toml.read chars = .ok top) :
      Gives tree root file (some top)

/-- The record that tells that a file is passed over. -/
def warning (root : FilePath) (file : SourceFile) (reason : String) : LogRecord :=
  ⟨.warning, logSource, s!"Could not read {(file.path root).render}: {reason}"⟩

theorem find?_of_read {bytes : List UInt8} (h : tree.read (file.path root) = .ok bytes) :
    tree.find? (file.path root) = .ok (some (.file bytes)) := by
  -- What can be read is there: each way in which it could be missing is an error of reading.
  unfold FileTree.read at h
  split at h
  · cases h
  · next place hplace =>
    split at h
    · cases h
    · cases h
    · next content hentry =>
      cases h
      rw [FileTree.find?, hplace]
      exact congrArg Except.ok hentry

theorem readSource_of_refused {error : FileError}
    (h : tree.find? (file.path root) = .error error) :
    readSource tree (file.path root) = ⟨[], .error (.refused error)⟩ := by
  unfold readSource
  rw [h]
  rfl

theorem readSource_of_notText {bytes : List UInt8} {fault : Text.Utf8Fault}
    (hread : tree.read (file.path root) = .ok bytes) (h : Text.ofUtf8 bytes = .error fault) :
    readSource tree (file.path root) = ⟨[], .error (.notText fault)⟩ := by
  -- The bytes are there, and the first step that fails is the one that makes a text of them.
  unfold readSource
  rw [find?_of_read hread]
  dsimp only
  rw [hread]
  dsimp only
  rw [h]
  rfl

theorem HasText.readSource_eq {bytes : List UInt8} (h : HasText tree root file bytes chars) :
    readSource tree (file.path root) = match Toml.read chars with
      | .ok entries => ⟨[], .ok (some entries)⟩
      | .error .malformed =>
        ⟨[file.warning root "the text is not well-formed"], .ok none⟩
      | .error (.tooManyDigits count) => ⟨[], .error (.tooManyDigits count)⟩ := by
  unfold readSource
  rw [find?_of_read h.read_eq]
  dsimp only
  rw [h.read_eq]
  dsimp only
  rw [h.text_eq]
  rfl

theorem Unusable.readSource_eq (h : Unusable tree root file reason) :
    readSource tree (file.path root) = ⟨[file.warning root reason], .ok none⟩ := by
  cases h with
  | unreadable hfind hread =>
    unfold readSource
    rw [hfind]
    dsimp only
    rw [hread]
    rfl
  | malformed htext hmalformed => rw [htext.readSource_eq, hmalformed]

theorem Gives.readSource_result {top? : Option Entries} (h : Gives tree root file top?) :
    (readSource tree (file.path root)).result = .ok top? := by
  cases h with
  | absent habsent =>
    unfold readSource
    rw [habsent]
    rfl
  | unusable hunusable => rw [hunusable.readSource_eq]
  | document htext hread => rw [htext.readSource_eq, hread]

/-! ## The table in a document -/

/-- What stands under the name of these settings in the table for tools. -/
def toolEntry? (top : Entries) : Option Value :=
  match top.get? "tool" with
  | some (.mapping tools) => Entries.get? tools "migrast"
  | _ => none

/-- The table under the name of these settings in the table for tools. -/
def toolTable? (top : Entries) : Option Entries :=
  match toolEntry? top with
  | some (.mapping entries) => some entries
  | _ => none

/-- The table of settings of a document. In their own file they may stand at the top. -/
def offered (file : SourceFile) (top : Entries) : Option Entries :=
  match file with
  | project => toolTable? top
  | own => some ((toolTable? top).getD top)

/-- The entries for tools and for these settings are tables, where they are there. -/
structure HasTables (top : Entries) : Prop where
  tools : ∀ value, top.get? "tool" = some value → ∃ tools, value = .mapping tools
  entry : ∀ value, toolEntry? top = some value → ∃ entries, value = .mapping entries

/-- One of these entries is something else, and that ends the search. An entry for these settings
that is empty or false does not, and one that consists of pairs is read as a table. -/
inductive Misfit (top : Entries) : Fault → Prop where
  | tools {value : Value} (hget : top.get? "tool" = some value)
      (hother : ∀ tools, value ≠ .mapping tools) : Misfit top (.toolsNotTable value)
  | entry {value : Value} {fault : Fault} (hentry : toolEntry? top = some value)
      (htruthy : value.isTruthy = true) (h : tableOf value = .error fault) : Misfit top fault

/-- The table of settings of a document, unless it is empty. -/
def tableIn (file : SourceFile) (top : Entries) : Except Fault (Option Entries) := do
  match ← file.settings? top with
  | none => return none
  | some value => if value.isTruthy then some <$> tableOf value else return none

theorem settings?_of_tools
    (h : ∀ value, top.get? "tool" = some value → ∃ tools, value = .mapping tools) :
    file.settings? top = .ok (match toolEntry? top, file with
      | none, .own => some (.mapping top)
      | entry, _ => entry) := by
  unfold settings? toolEntry?
  cases hget : top.get? "tool" with
  | none => rfl
  | some value =>
    obtain ⟨tools, rfl⟩ := h value hget
    rfl

theorem tableIn_of_hasTables (h : HasTables top) :
    file.tableIn top = .ok ((file.offered top).filter (!·.isEmpty)) := by
  -- A table is taken as it is, unless it is empty.
  have hmapping : ∀ entries : Entries,
      (if (Value.mapping entries).isTruthy then some <$> tableOf (.mapping entries)
        else (pure none : Except Fault (Option Entries))) =
      .ok ((some entries).filter (!·.isEmpty)) := by
    intro entries
    cases entries <;> rfl
  unfold tableIn
  rw [settings?_of_tools h.tools]
  unfold offered toolTable?
  cases hentry : toolEntry? top with
  | none =>
    cases file with
    -- At the top of the own file the settings may stand without an entry for tools.
    | project => rfl
    | own => exact hmapping top
  | some value =>
    obtain ⟨entries, rfl⟩ := h.entry value hentry
    cases file with
    | project => exact hmapping entries
    | own => exact hmapping entries

theorem tableIn_of_other {value : Value} (hget : top.get? "tool" = some value)
    (hother : ∀ tools, value ≠ .mapping tools) :
    file.tableIn top = .error (.toolsNotTable value) := by
  unfold tableIn settings?
  rw [hget]
  cases value with
  | mapping tools => exact absurd rfl (hother tools)
  | _ => rfl

theorem tools_of_toolEntry? {value : Value} (h : toolEntry? top = some value) :
    ∃ tools, top.get? "tool" = some (.mapping tools) := by
  unfold toolEntry? at h
  split at h
  · next tools hget => exact ⟨tools, hget⟩
  · cases h

theorem tableIn_of_entry {value : Value} (hentry : toolEntry? top = some value) :
    file.tableIn top = if value.isTruthy then some <$> tableOf value else .ok none := by
  -- An entry for these settings stands in a table for tools.
  obtain ⟨tools, hget⟩ := tools_of_toolEntry? hentry
  have htools : ∀ value, top.get? "tool" = some value → ∃ tools, value = .mapping tools := by
    intro value hvalue
    exact ⟨tools, Option.some.inj (hvalue.symm.trans hget)⟩
  unfold tableIn
  rw [settings?_of_tools htools, hentry]
  rfl

theorem Misfit.tableIn_eq (h : Misfit top fault) : file.tableIn top = .error fault := by
  cases h with
  | tools hget hother => exact tableIn_of_other hget hother
  | entry hentry htruthy htable =>
    rw [tableIn_of_entry hentry, if_pos htruthy, htable]
    rfl

theorem misfit_of_tableIn (h : file.tableIn top = .error fault) : Misfit top fault := by
  -- Whether what stands under the key for tools is a table at all comes first.
  by_cases htools : ∀ value, top.get? "tool" = some value → ∃ tools, value = .mapping tools
  · cases hentry : toolEntry? top with
    | none =>
      -- There is no entry to be misfit, and what stands at the top is a table.
      have hnone : ∀ value, toolEntry? top = some value → ∃ entries, value = .mapping entries := by
        intro value hvalue
        rw [hentry] at hvalue
        cases hvalue
      rw [tableIn_of_hasTables ⟨htools, hnone⟩] at h
      cases h
    | some value =>
      rw [tableIn_of_entry hentry] at h
      split at h
      · next htruthy =>
        cases htable : tableOf value with
        | error cause =>
          rw [htable] at h
          cases h
          exact .entry hentry htruthy htable
        | ok entries =>
          rw [htable] at h
          cases h
      · cases h
  · obtain ⟨value, hvalue⟩ := Classical.not_forall.mp htools
    obtain ⟨hget, hnone⟩ := Classical.not_imp.mp hvalue
    have hother : ∀ tools, value ≠ .mapping tools := not_exists.mp hnone
    rw [tableIn_of_other hget hother] at h
    cases h
    exact .tools hget hother

/-! ## Looking at a file -/

/-- The outcome of looking at a file: its table of settings, or none, or what ends the search. -/
def look (tree : FileTree) (root : FilePath) (file : SourceFile) :
    Except Fault (Option Entries) := do
  match ← (readSource tree (file.path root)).result with
  | none => return none
  | some top => file.tableIn top

/-- The ways in which a file ends the search. -/
inductive Breaks (tree : FileTree) (root : FilePath) (file : SourceFile) : Fault → Prop where
  /-- The system refuses to look for the file. -/
  | refused {error : FileError} (h : tree.find? (file.path root) = .error error) :
      Breaks tree root file (.refused error)
  | notText {bytes : List UInt8} {fault : Text.Utf8Fault}
      (hread : tree.read (file.path root) = .ok bytes) (h : Text.ofUtf8 bytes = .error fault) :
      Breaks tree root file (.notText fault)
  /-- The text is TOML, but an integer in it is too long to be read. -/
  | longNumber {bytes : List UInt8} {chars : List Char} {count : Nat}
      (htext : HasText tree root file bytes chars)
      (h : Toml.read chars = .error (.tooManyDigits count)) :
      Breaks tree root file (.tooManyDigits count)
  | misfit {top : Entries} {fault : Fault} (hgives : Gives tree root file (some top))
      (h : Misfit top fault) : Breaks tree root file fault

theorem gives_or_breaks (tree : FileTree) (root : FilePath) (file : SourceFile) :
    (∃ top?, Gives tree root file top?) ∨
      ∃ fault, (readSource tree (file.path root)).result = .error fault ∧
        Breaks tree root file fault := by
  -- The cases are the stages of reading: the file, its bytes, its text, its document.
  cases hfind : tree.find? (file.path root) with
  | error error =>
    exact .inr ⟨.refused error, by rw [readSource_of_refused hfind], .refused hfind⟩
  | ok entry? =>
    cases entry? with
    | none => exact .inl ⟨none, .absent hfind⟩
    | some entry =>
      cases hread : tree.read (file.path root) with
      | error error => exact .inl ⟨none, .unusable (.unreadable hfind hread)⟩
      | ok bytes =>
        cases htext : Text.ofUtf8 bytes with
        | error fault =>
          have hsource := readSource_of_notText hread htext
          exact .inr ⟨.notText fault, by rw [hsource], .notText hread htext⟩
        | ok chars =>
          have hchars : HasText tree root file bytes chars := ⟨hread, htext⟩
          cases htoml : Toml.read chars with
          | ok top => exact .inl ⟨some top, .document hchars htoml⟩
          | error fault =>
            cases fault with
            | malformed => exact .inl ⟨none, .unusable (.malformed hchars htoml)⟩
            | tooManyDigits count =>
              refine .inr ⟨.tooManyDigits count, ?_, .longNumber hchars htoml⟩
              rw [hchars.readSource_eq, htoml]

theorem look_of_gives {top? : Option Entries} (h : Gives tree root file top?) :
    file.look tree root = match top? with
      | none => .ok none
      | some top => file.tableIn top := by
  unfold look
  rw [h.readSource_result]
  cases top? <;> rfl

theorem look_of_readSource_error (h : (readSource tree (file.path root)).result = .error fault) :
    file.look tree root = .error fault := by
  unfold look
  rw [h]
  rfl

theorem look_eq_error_iff : file.look tree root = .error fault ↔ Breaks tree root file fault := by
  constructor
  · -- Either the file gives something, and then the table in it is at fault, or reading it failed.
    intro h
    rcases gives_or_breaks tree root file with ⟨top?, hgives⟩ | ⟨cause, hsource, hbreaks⟩
    · rw [look_of_gives hgives] at h
      cases top? with
      | none => cases h
      | some top => exact .misfit hgives (misfit_of_tableIn h)
    · rw [look_of_readSource_error hsource] at h
      cases h
      exact hbreaks
  · -- Each kind of break is a stage of reading that ends the look.
    intro h
    cases h with
    | refused hfind => exact look_of_readSource_error (by rw [readSource_of_refused hfind])
    | notText hread htext =>
      exact look_of_readSource_error (by rw [readSource_of_notText hread htext])
    | longNumber htext hnumber =>
      exact look_of_readSource_error (by rw [htext.readSource_eq, hnumber])
    | misfit hgives hmisfit =>
      rw [look_of_gives hgives]
      exact hmisfit.tableIn_eq

/-- Tables that are where tables should be never end the search. -/
theorem look_of_hasTables {top? : Option Entries} (hgives : Gives tree root file top?)
    (htables : ∀ top, top? = some top → HasTables top) :
    file.look tree root = .ok ((top?.bind file.offered).filter (!·.isEmpty)) := by
  rw [look_of_gives hgives]
  cases top? with
  | none => rfl
  | some top => exact tableIn_of_hasTables (htables top rfl)

end SourceFile

/-! ## The search -/

variable {tree : FileTree} {root : FilePath} {file : SourceFile} {files : List SourceFile}
  {fault : Fault}

/-- The table of a file ends the search, and so does a fault; otherwise it goes on. -/
theorem tableFrom_cons (tree : FileTree) (root : FilePath) (file : SourceFile)
    (rest : List SourceFile) :
    (tableFrom tree root (file :: rest)).result = file.look tree root >>= fun
      | some table => .ok table
      | none => (tableFrom tree root rest).result := by
  unfold SourceFile.look SourceFile.path
  rw [tableFrom, Logged.result_bind]
  cases (readSource tree (root.child file.name)).result with
  | error fault => rfl
  | ok top? =>
    cases top? with
    | none => rfl
    | some top =>
      -- Both sides look up the settings of one file, with and without what is logged.
      show Logged.result (Logged.ofExcept (file.settings? top) >>= _) = file.tableIn top >>= _
      rw [Logged.result_bind, Logged.result_ofExcept, SourceFile.tableIn]
      cases file.settings? top with
      | error fault => rfl
      | ok value? =>
        cases value? with
        | none => rfl
        | some value =>
          -- Only a value that counts as present is taken for the table.
          dsimp only [bind, Except.bind]
          cases value.isTruthy with
          | false => rfl
          | true => cases tableOf value <;> rfl

/-- The search is ended by the first file that does not let it go on. -/
inductive SearchBreaks (tree : FileTree) (root : FilePath) : List SourceFile → Fault → Prop where
  | here {file : SourceFile} {rest : List SourceFile} {fault : Fault}
      (h : file.Breaks tree root fault) : SearchBreaks tree root (file :: rest) fault
  | later {file : SourceFile} {rest : List SourceFile} {fault : Fault}
      (hfile : file.look tree root = .ok none) (h : SearchBreaks tree root rest fault) :
      SearchBreaks tree root (file :: rest) fault

theorem tableFrom_eq_error_iff :
    (tableFrom tree root files).result = .error fault ↔ SearchBreaks tree root files fault := by
  induction files with
  | nil => exact iff_of_false nofun nofun
  | cons file rest ih =>
    -- The look at the first file decides whether the others are looked at.
    rw [tableFrom_cons]
    constructor
    · intro h
      cases hlook : file.look tree root with
      | error cause =>
        rw [hlook] at h
        cases h
        exact .here (SourceFile.look_eq_error_iff.mp hlook)
      | ok table? =>
        rw [hlook] at h
        cases table? with
        | none => exact .later hlook (ih.mp h)
        | some table => cases h
    · intro h
      cases h with
      | here hbreaks =>
        rw [SourceFile.look_eq_error_iff.mpr hbreaks]
        rfl
      | later hlook hrest =>
        rw [hlook]
        exact ih.mpr hrest

/-- A file that is there and cannot be used is passed over with a warning, and nothing else about
the search changes. -/
theorem tableFrom_of_unusable {reason : String} (h : file.Unusable tree root reason)
    (rest : List SourceFile) :
    tableFrom tree root (file :: rest) =
      ⟨file.warning root reason :: (tableFrom tree root rest).records,
        (tableFrom tree root rest).result⟩ := by
  rw [tableFrom]
  show readSource tree (file.path root) >>= _ = _
  rw [h.readSource_eq]
  rfl

/-- A file that is not there is passed over without a word. -/
theorem tableFrom_of_find?_none (h : tree.find? (file.path root) = .ok none)
    (rest : List SourceFile) :
    tableFrom tree root (file :: rest) = tableFrom tree root rest := by
  -- A file that is absent gives nothing and logs nothing.
  have hsource : readSource tree (file.path root) = ⟨[], .ok none⟩ := by
    unfold readSource
    rw [h]
    rfl
  rw [tableFrom]
  show readSource tree (file.path root) >>= _ = _
  rw [hsource]
  rfl

/-- The table that two top tables, or one of them, have to offer. -/
def chosen (project? own? : Option Entries) : Entries :=
  match project?.bind SourceFile.toolTable? with
  | some (entry :: rest) => entry :: rest
  | _ =>
    match own? with
    | none => []
    | some top => (SourceFile.toolTable? top).getD top

section Tables

variable {project? own? : Option Entries} (hown : SourceFile.own.Gives tree root own?)
  (hownTables : ∀ top, own? = some top → SourceFile.HasTables top)

include hown hownTables

theorem tableFrom_own_eq_chosen :
    (tableFrom tree root [.own]).result = .ok (chosen none own?) := by
  rw [tableFrom_cons, SourceFile.look_of_hasTables hown hownTables]
  cases own? with
  | none => rfl
  | some top =>
    -- An empty table is not taken, and the search ends with one all the same.
    show Except.ok ((some ((SourceFile.toolTable? top).getD top)).filter (!·.isEmpty)) >>= _ =
      Except.ok ((SourceFile.toolTable? top).getD top)
    cases (SourceFile.toolTable? top).getD top <;> rfl

theorem tableFrom_eq_chosen (hproject : SourceFile.project.Gives tree root project?)
    (hprojectTables : ∀ top, project? = some top → SourceFile.HasTables top) :
    (tableFrom tree root SourceFile.all).result = .ok (chosen project? own?) := by
  have hlast := tableFrom_own_eq_chosen hown hownTables
  rw [SourceFile.all, tableFrom_cons, SourceFile.look_of_hasTables hproject hprojectTables]
  -- A first file without a table leaves the search to the second.
  cases project? with
  | none => exact hlast
  | some top =>
    show Except.ok ((SourceFile.toolTable? top).filter (!·.isEmpty)) >>= _ = _
    unfold chosen
    rw [Option.bind_some]
    cases SourceFile.toolTable? top with
    | none => exact hlast
    | some table =>
      cases table with
      | nil => exact hlast
      | cons entry rest => rfl

end Tables

end SchemaMigration.Settings
