import SchemaMigration.Proofs.DecidedSettings

/-!
# How loading settings can fail

Loading fails in two ways, and each fault tells which one it is (`Fault.isOfValue`): a file ends the
search for a table (`SearchBreaks`), or a value that is decided for a setting is refused
(`firstRefusal?`). Refusing a format or a flag is how loading should fail. It fails otherwise
exactly when a file ends the search, or when the first value that is refused is one that cannot be
shown (`load_endsWell_iff`).

A file that cannot be read, or whose text is malformed, ends nothing. It is passed over with a
warning. Files are read here however deep they nest; that a reader may give up at some depth is set
aside.
-/

namespace SchemaMigration.Settings

variable {tree : FileTree} {root : FilePath} {environment : Environment} {file : SourceFile}
  {files : List SourceFile} {fault : Fault}

/-! ## Two kinds of faults -/

/-- Is the fault one of the value of a setting? The others are faults of the files. -/
def Fault.isOfValue : Fault → Bool
  | unknownFormat _ => true
  | notAFlag _ => true
  | notShowable => true
  | _ => false

theorem isOfValue_of_refusal? {setting : Setting} {value? : Option Value}
    (h : setting.refusal? value? = some fault) : fault.isOfValue = true := by
  -- Each check but that of the format is one test with one fault.
  have hif : ∀ {condition : Bool} {cause : Fault}, cause.isOfValue = true →
      (if condition then some cause else none) = some fault → fault.isOfValue = true := by
    intro condition cause hcause hsome
    cases condition with
    | false => cases hsome
    | true =>
      cases hsome
      exact hcause
  cases value? with
  -- A setting without a value is never refused.
  | none => cases setting <;> cases h
  | some value =>
    cases setting with
    | outputFormat =>
      -- The format is the one setting with two faults: its text is unknown, or it cannot be shown.
      rw [Setting.refusal?] at h
      split at h
      · cases h
        rfl
      · exact hif rfl h
    | dialect => exact hif rfl h
    | validate => exact hif rfl h
    | terminator => exact hif rfl h

theorem isOfValue_of_firstRefusal? {decided : Setting → Option Value}
    (h : firstRefusal? decided = some fault) : fault.isOfValue = true := by
  obtain ⟨setting, -, hrefusal⟩ := List.exists_of_findSome?_eq_some h
  exact isOfValue_of_refusal? hrefusal

/-- What fails in no way that is the fault of a value. -/
def KeepsToFiles {α : Type} (result : Except Fault α) : Prop :=
  ∀ fault, result = .error fault → fault.isOfValue = false

namespace KeepsToFiles

variable {α β : Type}

theorem ok (a : α) : KeepsToFiles (.ok a) := nofun

theorem error (h : fault.isOfValue = false) : KeepsToFiles (.error fault : Except Fault α) := by
  intro cause hcause
  cases hcause
  exact h

theorem bind {first : Except Fault α} {next : α → Except Fault β} (hfirst : KeepsToFiles first)
    (hnext : ∀ a, KeepsToFiles (next a)) : KeepsToFiles (first >>= next) := by
  cases first with
  | error cause => exact .error (hfirst cause rfl)
  | ok a => exact hnext a

end KeepsToFiles

theorem keepsToFiles_pairOf (index : Nat) (member : Value) :
    KeepsToFiles (pairOf index member) := by
  unfold pairOf
  split
  · exact .error rfl
  · split
    · exact .ok _
    · exact .error rfl
  · exact .error rfl

theorem keepsToFiles_pairsOf (index : Nat) (members : List Value) :
    KeepsToFiles (pairsOf index members) := by
  induction members generalizing index with
  | nil => exact .ok _
  | cons member rest ih =>
    rw [pairsOf]
    refine .bind (keepsToFiles_pairOf index member) ?_
    intro pair
    exact .bind (ih (index + 1)) fun _ => .ok _

theorem keepsToFiles_tableOf (value : Value) : KeepsToFiles (tableOf value) := by
  unfold tableOf
  split
  · exact .ok _
  · split
    · exact .error rfl
    · exact .bind (keepsToFiles_pairsOf 0 _) fun _ => .ok _

theorem SourceFile.Breaks.isOfValue_eq (h : file.Breaks tree root fault) :
    fault.isOfValue = false := by
  cases h with
  | refused _ => rfl
  | notText _ _ => rfl
  | longNumber _ _ => rfl
  -- The fault of a misfit is the one that the table for tools or the entry in it gives.
  | misfit _ hmisfit =>
    cases hmisfit with
    | tools _ _ => rfl
    | entry _ _ htable => exact keepsToFiles_tableOf _ _ htable

theorem SearchBreaks.isOfValue_eq (h : SearchBreaks tree root files fault) :
    fault.isOfValue = false := by
  induction h with
  | here hbreaks => exact hbreaks.isOfValue_eq
  | later _ _ ih => exact ih

/-! ## Loading -/

theorem load_eq_error_iff :
    (load tree environment root).result = .error fault ↔
      SearchBreaks tree root SourceFile.all fault ∨
        ∃ table, (tableFrom tree root SourceFile.all).result = .ok table ∧
          firstRefusal? (decided environment table) = some fault := by
  rw [← tableFrom_eq_error_iff]
  -- Loading is the search and then the check of the settings; either may fail.
  cases htable : (tableFrom tree root SourceFile.all).result with
  | error cause =>
    -- The fault of the search is the fault of loading, and no table is found beside it.
    have hload : (load tree environment root).result = .error cause := by
      rw [load, Logged.result_bind, htable]
      rfl
    rw [hload]
    constructor
    · exact fun h => .inl (congrArg Except.error (Except.error.inj h))
    · rintro (h | ⟨table, hok, -⟩)
      · exact congrArg Except.error (Except.error.inj h)
      · cases hok
  | ok table =>
    -- The search has found its table, so only the settings are left to fail.
    rw [load_result_eq htable environment, outcomeOf_eq_error_iff]
    constructor
    · intro h
      exact .inr ⟨table, rfl, h⟩
    · rintro (h | ⟨table', hok, hrefusal⟩)
      · cases h
      · cases hok
        exact hrefusal

/-- Loading ends with settings, or with the refusal of a format or of a flag. -/
inductive EndsWell : Except Fault Settings → Prop where
  | settings (settings : Settings) : EndsWell (.ok settings)
  | format (name : String) : EndsWell (.error (.unknownFormat name))
  | flag (value : Value) : EndsWell (.error (.notAFlag value))

theorem endsWell_error_iff (h : fault.isOfValue = true) :
    EndsWell (.error fault) ↔ fault ≠ .notShowable := by
  cases fault with
  | unknownFormat name => exact iff_of_true (.format name) nofun
  | notAFlag value => exact iff_of_true (.flag value) nofun
  | notShowable => exact iff_of_false nofun fun h => h rfl
  | _ => cases h

theorem not_endsWell_of_isOfValue (h : fault.isOfValue = false) : ¬EndsWell (.error fault) := by
  intro hwell
  cases hwell with
  | format name => cases h
  | flag value => cases h

theorem endsWell_outcomeOf_iff {decided : Setting → Option Value} :
    EndsWell (outcomeOf decided) ↔ firstRefusal? decided ≠ some .notShowable := by
  unfold outcomeOf
  cases hrefusal : firstRefusal? decided with
  | none => exact iff_of_true (.settings _) nofun
  | some fault =>
    rw [ne_eq, Option.some.injEq]
    exact endsWell_error_iff (isOfValue_of_firstRefusal? hrefusal)

/-- **Loading ends well** unless a file ends the search for a table, or the first of the decided
values that is refused cannot be shown. A file that ends the search is what loading fails with. One
that cannot be used is passed over with a warning, and the search goes on as if it were not there.
-/
theorem load_endsWell_iff (tree : FileTree) (environment : Environment) (root : FilePath) :
    (EndsWell (load tree environment root).result ↔
        (∀ fault, ¬SearchBreaks tree root SourceFile.all fault) ∧
          ∀ table, (tableFrom tree root SourceFile.all).result = .ok table →
            firstRefusal? (decided environment table) ≠ some .notShowable) ∧
      (∀ fault, SearchBreaks tree root SourceFile.all fault →
        (load tree environment root).result = .error fault) ∧
      ∀ file rest reason, SourceFile.Unusable tree root file reason →
        tableFrom tree root (file :: rest) =
          ⟨file.warning root reason :: (tableFrom tree root rest).records,
            (tableFrom tree root rest).result⟩ := by
  have hbroken : ∀ fault, SearchBreaks tree root SourceFile.all fault →
      (load tree environment root).result = .error fault :=
    fun fault h => load_eq_error_iff.mpr (.inl h)
  refine ⟨?_, hbroken, fun _ rest _ h => tableFrom_of_unusable h rest⟩
  cases htable : (tableFrom tree root SourceFile.all).result with
  | error cause =>
    -- What ends the search is no fault of a value, so loading does not end well.
    have hbreaks := tableFrom_eq_error_iff.mp htable
    rw [hbroken cause hbreaks]
    refine iff_of_false (not_endsWell_of_isOfValue hbreaks.isOfValue_eq) ?_
    exact fun h => h.1 cause hbreaks
  | ok table =>
    have hsearch : ∀ fault, ¬SearchBreaks tree root SourceFile.all fault := by
      intro fault h
      rw [tableFrom_eq_error_iff.mpr h] at htable
      cases htable
    -- The settings of this one table are what loading checks.
    rw [load_result_eq htable environment, endsWell_outcomeOf_iff]
    constructor
    · intro hne
      refine ⟨hsearch, ?_⟩
      intro table' hsame
      cases hsame
      exact hne
    · intro h
      exact h.2 table rfl

/-- A project file with a byte that starts no character. -/
def brokenProject : FileTree := [(⟨"", ["pyproject.toml"]⟩, .file [0xff])]

/-- A directory in the place of the project file. -/
def projectDirectory : FileTree := [(⟨"", ["pyproject.toml"]⟩, .directory)]

def isDirectory : FileError := ⟨.isDirectory, ⟨"", ["pyproject.toml"]⟩⟩

theorem unusable_projectDirectory :
    SourceFile.project.Unusable projectDirectory ⟨"", []⟩ isDirectory.message := by
  have hfind : projectDirectory.find? ⟨"", ["pyproject.toml"]⟩ = .ok (some .directory) := by
    rw [FileTree.find?, CommandLine.place_eq_walk (by decide) (by decide)]
    rfl
  have hread : projectDirectory.read ⟨"", ["pyproject.toml"]⟩ = .error isDirectory := by
    rw [FileTree.read, CommandLine.place_eq_walk (by decide) (by decide)]
    rfl
  exact .unreadable hfind hread

theorem absent_own : projectDirectory.find? (SourceFile.own.path ⟨"", []⟩) = .ok none := by
  show projectDirectory.find? ⟨"", ["migrast.toml"]⟩ = _
  rw [FileTree.find?, CommandLine.place_eq_walk (by decide) (by decide)]
  rfl

/-- A directory is passed over, and the settings are the defaults; a byte that starts no character
ends the search. -/
theorem load_endsWell_directory :
    EndsWell (load projectDirectory [] ⟨"", []⟩).result ∧
      (tableFrom projectDirectory ⟨"", []⟩ SourceFile.all).records =
        [SourceFile.project.warning ⟨"", []⟩ isDirectory.message,
          ⟨.debug, logSource, "No migrast configuration found"⟩] ∧
      ¬EndsWell (load brokenProject [] ⟨"", []⟩).result ∧
      (load brokenProject [] ⟨"", []⟩).result = .error (.notText ⟨.badStart, 0, [0xff]⟩) := by
  have hread : brokenProject.read ⟨"", ["pyproject.toml"]⟩ = .ok [0xff] := by
    rw [FileTree.read, CommandLine.place_eq_walk (by decide) (by decide)]
    rfl
  have hbreaks : SearchBreaks brokenProject ⟨"", []⟩ SourceFile.all
      (.notText ⟨.badStart, 0, [0xff]⟩) := .here (.notText hread rfl)
  have hnone : ∀ top, (none : Option Entries) = some top → SourceFile.HasTables top := by
    intro top htop
    cases htop
  have hsources : Sources projectDirectory ⟨"", []⟩ none none :=
    ⟨.unusable unusable_projectDirectory, .absent absent_own, hnone, hnone⟩
  have htable := tableFrom_eq_chosen hsources.own hsources.ownTables hsources.project
    hsources.projectTables
  obtain ⟨hwell, -, hskip⟩ := load_endsWell_iff projectDirectory [] ⟨"", []⟩
  obtain ⟨hbroken, hfault, -⟩ := load_endsWell_iff brokenProject [] ⟨"", []⟩
  refine ⟨hwell.mpr ⟨?_, ?_⟩, ?_, ?_, hfault _ hbreaks⟩
  · -- The table is found without a fault, so nothing ends the search.
    intro fault h
    rw [tableFrom_eq_error_iff.mpr h] at htable
    cases htable
  · intro table h hsome
    cases htable.symm.trans h
    cases hsome
  · rw [SourceFile.all, hskip .project [.own] _ unusable_projectDirectory,
      tableFrom_of_find?_none absent_own]
    rfl
  · intro h
    exact (hbroken.mp h).1 _ hbreaks

end SchemaMigration.Settings
