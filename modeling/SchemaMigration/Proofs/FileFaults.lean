import SchemaMigration.Document.File
import SchemaMigration.Proofs.JsonIntegers
import SchemaMigration.Proofs.LoggedSteps
import SchemaMigration.Proofs.Stages

/-!
# How loading a file of statements can fail

A file that gives no batch is reported with a load error for most causes: the file is missing or a
directory, its ending is unknown, its text is malformed, its document has the wrong shape. There are
five other ways in which loading can end, and no more (`Batch.Escapes`). The path and the bytes of
the file decide which of them it is.

Of a JSON file the bytes tell more. Its integers can be written when they can be read, so a text
without a long row of digits ends with a batch or with a load error, whatever else stands in it.
-/

namespace SchemaMigration

open Document

/-! ## Paths that are not asked for -/

namespace FileTree

variable {tree : FileTree} {path : FilePath}

theorem walk_ne_nul (tree : FileTree) (place : FilePath) (names : List String) :
    tree.walk place names ≠ .error .nul := by
  induction names generalizing place with
  | nil => nofun
  | cons name rest ih =>
    unfold walk
    split
    · nofun
    · nofun
    -- A step complains about the length of a name, if about anything.
    · split
      · nofun
      · exact ih (place.step name)

theorem place_eq_nul_iff : tree.place path = .error .nul ↔ '\x00' ∈ path.render.toList := by
  have hcontains : path.render.contains '\x00' = true ↔ '\x00' ∈ path.render.toList := by simp
  unfold place
  dsimp only
  split
  · next hnul => exact iff_of_true rfl (hcontains.mp hnul)
  · next hnul =>
    have hno : '\x00' ∉ path.render.toList := fun h => hnul (hcontains.mpr h)
    split
    · exact iff_of_false nofun hno
    -- Past the test nothing on the way complains about a NUL.
    · exact iff_of_false (walk_ne_nul tree _ _) hno

theorem read_of_nul (h : '\x00' ∈ path.render.toList) : tree.read path = .error ⟨.nul, path⟩ := by
  rw [read, place_eq_nul_iff.mpr h]

theorem nul_of_read {error : FileError} (h : tree.read path = .error error)
    (hcause : error.cause = .nul) : '\x00' ∈ path.render.toList ∧ error = ⟨.nul, path⟩ := by
  unfold read at h
  split at h
  -- Only the place of the path can have a NUL in it.
  · next cause hplace =>
    cases h
    have hnul : cause = .nul := hcause
    rw [hnul] at hplace
    exact ⟨place_eq_nul_iff.mp hplace, by rw [hnul]⟩
  · split at h
    · cases h
      cases hcause
    · cases h
      cases hcause
    · cases h

end FileTree

/-! ## The value of a file -/

namespace Document

variable {tree : FileTree} {path : FilePath} {bytes : List UInt8}

/-- The path leads to a file with these bytes, and its ending stands for the format. -/
structure Holds (tree : FileTree) (path : FilePath) (format : FileFormat) (bytes : List UInt8) :
    Prop where
  format_eq : FileFormat.ofEnding? path.ending = some format
  read_eq : tree.read path = .ok bytes

theorem Holds.bytes_unique {format format' : FileFormat} {bytes' : List UInt8}
    (h : Holds tree path format bytes) (h' : Holds tree path format' bytes') : bytes = bytes' :=
  Except.ok.inj (h.read_eq.symm.trans h'.read_eq)

theorem Holds.format_unique {format format' : FileFormat} {bytes' : List UInt8}
    (h : Holds tree path format bytes) (h' : Holds tree path format' bytes') : format = format' :=
  Option.some.inj (h.format_eq.symm.trans h'.format_eq)

theorem Holds.not_nul {format : FileFormat} (h : Holds tree path format bytes) :
    '\x00' ∉ path.render.toList := by
  intro hnul
  have hread := h.read_eq
  rw [FileTree.read_of_nul hnul] at hread
  cases hread

theorem Holds.readFile_yaml (h : Holds tree path .yaml bytes) :
    readFile tree path = readYaml path.render bytes := by
  unfold readFile
  rw [h.format_eq]
  dsimp only
  rw [h.read_eq]

theorem Holds.readFile_json (h : Holds tree path .json bytes) :
    readFile tree path = readJson path.render bytes := by
  unfold readFile
  rw [h.format_eq]
  dsimp only
  rw [h.read_eq]

theorem writable_of_readJson {name : String} {value : Value} (h : readJson name bytes = .ok value) :
    value.Writable := by
  unfold readJson at h
  split at h
  · cases h
  -- A value was read, so its integers were.
  · split at h
    · next hread =>
      cases h
      exact Json.writable_of_read hread
    · split at h
      · cases h
      · cases h

theorem readYaml_eq_ok_iff {name : String} {value : Value} :
    readYaml name bytes = .ok value ↔ Yaml.read (.ofBytes bytes) = .ok value := by
  unfold readYaml
  generalize Yaml.read (.ofBytes bytes) = reading
  split
  · rw [Except.ok.injEq, Except.ok.injEq]
  · exact iff_of_false nofun nofun
  · exact iff_of_false nofun nofun

theorem readYaml_of_error {name : String} {fault : Yaml.Fault}
    (h : Yaml.read (.ofBytes bytes) = .error fault) (hfault : fault ≠ .malformed) :
    readYaml name bytes = .error (.yaml fault) := by
  unfold readYaml
  generalize Yaml.read (.ofBytes bytes) = reading at h
  cases h
  cases fault <;> first | rfl | exact absurd rfl hfault

/-- A value that was read is the value of a file of one of the formats. -/
theorem exists_holds_of_readFile {value : Value} (h : readFile tree path = .ok value) :
    ∃ bytes, (Holds tree path .json bytes ∧ value.Writable) ∨
      Holds tree path .yaml bytes ∧ Yaml.read (.ofBytes bytes) = .ok value := by
  unfold readFile at h
  dsimp only at h
  -- Without a known ending or without bytes there is no value.
  split at h
  · cases h
  · next format hformat =>
    split at h
    · split at h
      · cases h
      · cases h
    · next bytes hbytes =>
      refine ⟨bytes, ?_⟩
      cases format with
      | json => exact .inl ⟨⟨hformat, hbytes⟩, writable_of_readJson h⟩
      | yaml => exact .inr ⟨⟨hformat, hbytes⟩, readYaml_eq_ok_iff.mp h⟩

end Document

/-! ## What is not reported -/

namespace Batch

variable {tree : FileTree} {path : FilePath} {bytes : List UInt8} {fault : FileFault}

/-- Loading gives a batch, or a load error with its place. -/
def LoadsOrReports (tree : FileTree) (path : FilePath) : Prop :=
  (∃ batch, (load tree path).result = .ok batch) ∨
    ∃ error, (load tree path).result = .error (.refused error) ∧ error.fault.reason.isPlaced = true

/-- The other ways in which loading ends. -/
inductive Escapes (tree : FileTree) (path : FilePath) : FileFault → Prop where
  /-- The path is not even asked for. -/
  | nul {format : FileFormat} (hformat : FileFormat.ofEnding? path.ending = some format)
      (hnul : '\x00' ∈ path.render.toList) : Escapes tree path (.badPath ⟨.nul, path⟩)
  | notText {bytes : List UInt8} {fault : Text.Utf8Fault} (hfile : Holds tree path .json bytes)
      (htext : Text.ofUtf8 bytes = .error fault) : Escapes tree path (.notText fault)
  | longNumber {bytes : List UInt8} {chars : List Char} {error : Json.Error} {count : Nat}
      (hfile : Holds tree path .json bytes) (htext : Text.ofUtf8 bytes = .ok chars)
      (hread : Json.read (String.ofList (Text.unifyNewlines chars)) = .error error)
      (hcount : error.fault = .tooManyDigits count) : Escapes tree path (.jsonNumber error)
  /-- Bytes that cannot be decoded, or a scalar that cannot be made into a value of its type. -/
  | unmade {bytes : List UInt8} {fault : Yaml.Fault} (hfile : Holds tree path .yaml bytes)
      (hread : Yaml.read (.ofBytes bytes) = .error fault) (hfault : fault ≠ .malformed) :
      Escapes tree path (.yaml fault)
  /-- A value has to be shown, and an integer in it has too many digits for that. -/
  | notShowable {bytes : List UInt8} {value : Value} {place : Path}
      (hfile : Holds tree path .yaml bytes) (hread : Yaml.read (.ofBytes bytes) = .ok value)
      (hvalue : ofValue value = .error ⟨place, .notShowable⟩) :
      Escapes tree path (.refused ⟨path.name, ⟨place, .notShowable⟩⟩)

theorem Escapes.isPlaced_ne {error : LoadError} (h : Escapes tree path (.refused error)) :
    error.fault.reason.isPlaced = false := by
  cases h with
  | notShowable => rfl

/-! ### From the file -/

theorem load_of_readFile_error (h : readFile tree path = .error fault) :
    (load tree path).result = .error fault := by
  rw [load, Logged.result_bind, Logged.result_ofExcept, h]
  rfl

theorem load_of_ofValue_error {value : Value} {cause : Fault}
    (hfile : readFile tree path = .ok value) (hvalue : ofValue value = .error cause) :
    (load tree path).result = .error (.refused ⟨path.name, cause⟩) := by
  rw [load, Logged.result_bind, Logged.result_ofExcept, hfile]
  show Logged.result (Logged.ofExcept _ >>= fun _ => _) = _
  rw [Logged.result_bind, Logged.result_ofExcept, hvalue]
  rfl

theorem Escapes.result_eq (h : Escapes tree path fault) :
    (load tree path).result = .error fault := by
  -- One case for each way out: what the bytes are read as is what the fault says.
  cases h with
  | nul hformat hnul =>
    refine load_of_readFile_error ?_
    unfold readFile
    rw [hformat]
    dsimp only
    rw [FileTree.read_of_nul hnul]
    rfl
  | notText hfile htext =>
    refine load_of_readFile_error ?_
    rw [hfile.readFile_json, readJson, htext]
  | longNumber hfile htext hread hcount =>
    refine load_of_readFile_error ?_
    rw [hfile.readFile_json, readJson, htext]
    dsimp only
    rw [hread]
    dsimp only
    rw [hcount]
  | unmade hfile hread hfault =>
    refine load_of_readFile_error ?_
    rw [hfile.readFile_yaml]
    exact readYaml_of_error hread hfault
  | notShowable hfile hread hvalue =>
    refine load_of_ofValue_error ?_ hvalue
    rw [hfile.readFile_yaml]
    exact readYaml_eq_ok_iff.mpr hread

/-- A fault that is reported: a load error that tells its place. -/
def Reported (fault : FileFault) : Prop :=
  ∃ error, fault = .refused error ∧ error.fault.reason.isPlaced = true

theorem reported_of_whole {name : String} {reason : Reason}
    (h : (.error (.refused (.whole name reason)) : Except FileFault Value) = .error fault)
    (hplaced : reason.isPlaced = true) : Reported fault := by
  cases h
  exact ⟨.whole name reason, rfl, hplaced⟩

theorem reported_or_escapes_of_readYaml (hfile : Holds tree path .yaml bytes)
    (h : readYaml path.render bytes = .error fault) : Reported fault ∨ Escapes tree path fault := by
  unfold readYaml at h
  split at h
  · cases h
  · exact .inl (reported_of_whole h rfl)
  · next hmade hread =>
    cases h
    exact .inr (.unmade hfile hread hmade)

theorem reported_or_escapes_of_readJson (hfile : Holds tree path .json bytes)
    (h : readJson path.render bytes = .error fault) : Reported fault ∨ Escapes tree path fault := by
  unfold readJson at h
  split at h
  · next htext =>
    cases h
    exact .inr (.notText hfile htext)
  · next htext =>
    split at h
    · cases h
    · next hread =>
      -- Of the faults of a text, only the count of digits is no decoding error.
      split at h
      · next hcount =>
        cases h
        exact .inr (.longNumber hfile htext hread hcount)
      · exact .inl (reported_of_whole h rfl)

theorem reported_or_escapes_of_readFile (h : readFile tree path = .error fault) :
    Reported fault ∨ Escapes tree path fault := by
  unfold readFile at h
  dsimp only at h
  split at h
  · exact .inl (reported_of_whole h rfl)
  · next format hformat =>
    split at h
    · next error hread =>
      -- The system's errors are reported, and that of a NUL is not one of them.
      split at h
      · next hcause =>
        obtain ⟨hnul, herror⟩ := FileTree.nul_of_read hread hcause
        cases h
        rw [herror]
        exact .inr (.nul hformat hnul)
      · exact .inl (reported_of_whole h rfl)
    · next bytes hbytes =>
      cases format with
      | yaml => exact reported_or_escapes_of_readYaml ⟨hformat, hbytes⟩ h
      | json => exact reported_or_escapes_of_readJson ⟨hformat, hbytes⟩ h

theorem loadsOrReports_or_escapes (tree : FileTree) (path : FilePath) :
    LoadsOrReports tree path ∨ ∃ fault, Escapes tree path fault := by
  -- The file has no value, or its value is no batch.
  cases hfile : readFile tree path with
  | error fault =>
    have hresult := load_of_readFile_error hfile
    rcases reported_or_escapes_of_readFile hfile with ⟨error, rfl, hplaced⟩ | hescapes
    · exact .inl (.inr ⟨error, hresult, hplaced⟩)
    · exact .inr ⟨fault, hescapes⟩
  | ok value =>
    cases hvalue : ofValue value with
    | ok batch => exact .inl (.inl ⟨batch, load_eq_ok hfile hvalue⟩)
    | error cause =>
      have hresult := load_of_ofValue_error hfile hvalue
      by_cases hplaced : cause.reason.isPlaced = true
      · exact .inl (.inr ⟨⟨path.name, cause⟩, hresult, hplaced⟩)
      · obtain ⟨bytes, ⟨-, hwritable⟩ | ⟨hyaml, hread⟩⟩ := exists_holds_of_readFile hfile
        -- A JSON document has no integer that cannot be written.
        · exact absurd (Batch.placed_ofValue hwritable cause hvalue) hplaced
        · obtain ⟨place, reason⟩ := cause
          have hreason : reason = .notShowable := by
            cases reason <;> first | rfl | exact absurd rfl hplaced
          rw [hreason] at hvalue
          exact .inr ⟨_, .notShowable hyaml hread hvalue⟩

theorem loadsOrReports_of_not_escapes (h : ∀ fault, ¬Escapes tree path fault) :
    LoadsOrReports tree path := by
  rcases loadsOrReports_or_escapes tree path with hreports | ⟨fault, hescapes⟩
  · exact hreports
  · exact absurd hescapes (h fault)

/-- A JSON text escapes in one way only: by an integer that is too long to be read. -/
theorem loadsOrReports_of_json {chars : List Char} (hfile : Holds tree path .json bytes)
    (htext : Text.ofUtf8 bytes = .ok chars) (hshort : ¬Digits.HasLongRow chars) :
    LoadsOrReports tree path := by
  refine loadsOrReports_of_not_escapes ?_
  intro fault hescapes
  -- The path leads to one file, so each way speaks of these bytes or of the other format.
  cases hescapes with
  | nul _ hnul => exact hfile.not_nul hnul
  | notText hother hbroken =>
    cases hfile.bytes_unique hother
    rw [htext] at hbroken
    cases hbroken
  | longNumber hother hchars hread hcount =>
    cases hfile.bytes_unique hother
    cases htext.symm.trans hchars
    have hrow := Json.hasLongRow_of_read hread hcount
    rw [String.toList_ofList] at hrow
    exact hshort (Text.hasLongRow_of_unifyNewlines hrow)
  | unmade hother _ _ => cases hfile.format_unique hother
  | notShowable hother _ _ => cases hfile.format_unique hother

/-- A YAML file whose text is malformed, or whose value has no integer that is too long, does not
escape. -/
theorem loadsOrReports_of_yaml (hfile : Holds tree path .yaml bytes)
    (hfault : ∀ fault, Yaml.read (.ofBytes bytes) = .error fault → fault = .malformed)
    (hvalue : ∀ value, Yaml.read (.ofBytes bytes) = .ok value → value.Writable) :
    LoadsOrReports tree path := by
  refine loadsOrReports_of_not_escapes ?_
  intro fault hescapes
  -- As for JSON, but here the reader of YAML says what can go wrong.
  cases hescapes with
  | nul _ hnul => exact hfile.not_nul hnul
  | notText hother _ => cases hfile.format_unique hother
  | longNumber hother _ _ _ => cases hfile.format_unique hother
  | unmade hother hread hmade =>
    cases hfile.bytes_unique hother
    exact hmade (hfault _ hread)
  | notShowable hother hread hrefused =>
    cases hfile.bytes_unique hother
    have hplaced := placed_ofValue (hvalue _ hread) _ hrefused
    cases hplaced

/-- **Loading a file gives a batch or a load error** exactly when the file does not escape; if it
does, that is how loading ends. The digits of a JSON text and the value of a YAML text tell that a
file does not escape. -/
theorem loadsOrReports_iff (tree : FileTree) (path : FilePath) :
    (LoadsOrReports tree path ↔ ∀ fault, ¬Escapes tree path fault) ∧
      (∀ fault, Escapes tree path fault → (load tree path).result = .error fault) ∧
      (∀ bytes chars, Holds tree path .json bytes → Text.ofUtf8 bytes = .ok chars →
        ¬Digits.HasLongRow chars → LoadsOrReports tree path) ∧
      (∀ bytes, Holds tree path .yaml bytes →
        (∀ fault, Yaml.read (.ofBytes bytes) = .error fault → fault = .malformed) →
        (∀ value, Yaml.read (.ofBytes bytes) = .ok value → value.Writable) →
        LoadsOrReports tree path) := by
  refine ⟨⟨?_, loadsOrReports_of_not_escapes⟩, fun _ => Escapes.result_eq,
    fun _ _ => loadsOrReports_of_json, fun _ => loadsOrReports_of_yaml⟩
  intro h fault hescapes
  have hresult := hescapes.result_eq
  rcases h with ⟨batch, hok⟩ | ⟨error, herror, hplaced⟩
  · rw [hok] at hresult
    cases hresult
  -- A load error with a place would be the fault that escapes, and that one has none.
  · rw [herror] at hresult
    cases hresult
    rw [hescapes.isPlaced_ne] at hplaced
    cases hplaced

/-- Three files: an empty list in JSON, YAML without a character, and YAML with a byte that starts
none. -/
def threeFiles : FileTree :=
  [(⟨"", ["a.json"]⟩, .file [0x5b, 0x5d]), (⟨"", ["empty.yml"]⟩, .file []),
    (⟨"", ["a.yaml"]⟩, .file [0x2d, 0x20, 0xff, 0x0a])]

theorem holds_threeFiles :
    Holds threeFiles ⟨"", ["a.json"]⟩ .json [0x5b, 0x5d] ∧
      Holds threeFiles ⟨"", ["empty.yml"]⟩ .yaml [] ∧
      Holds threeFiles ⟨"", ["a.yaml"]⟩ .yaml [0x2d, 0x20, 0xff, 0x0a] := by
  refine ⟨⟨rfl, ?_⟩, ⟨rfl, ?_⟩, ⟨rfl, ?_⟩⟩
  all_goals
    rw [FileTree.read, CommandLine.place_eq_walk (by decide) (by decide)]
    rfl

/-- The byte is noticed when the first piece of the text is read. -/
theorem read_brokenByte : Yaml.read (.ofBytes [0x2d, 0x20, 0xff, 0x0a]) =
    .error (.undecodable ⟨.badStart, 2, [0xff]⟩) := by
  have hpieces : Text.piecesOf Yaml.Source.pieceSize [0x2d, 0x20, 0xff, 0x0a] =
      ([], some ⟨.badStart, 2, [0xff]⟩) := by decide +kernel
  have hsource : Yaml.Source.ofBytes [0x2d, 0x20, 0xff, 0x0a] =
      ⟨[], some (.undecodable ⟨.badStart, 2, [0xff]⟩)⟩ := by
    rw [Yaml.Source.ofBytes, hpieces]
    rfl
  rw [hsource]
  rfl

theorem loadsOrReports_threeFiles :
    LoadsOrReports threeFiles ⟨"", ["a.json"]⟩ ∧
      LoadsOrReports threeFiles ⟨"", ["empty.yml"]⟩ ∧
      ¬LoadsOrReports threeFiles ⟨"", ["a.yaml"]⟩ ∧
      (load threeFiles ⟨"", ["a.yaml"]⟩).result =
        .error (.yaml (.undecodable ⟨.badStart, 2, [0xff]⟩)) := by
  obtain ⟨hjson, hempty, hbroken⟩ := holds_threeFiles
  have hnull : Yaml.read (.ofBytes []) = .ok .null := by
    have hpieces : Text.piecesOf Yaml.Source.pieceSize [] = ([], none) := by decide +kernel
    have hsource : Yaml.Source.ofBytes [] = ⟨[], none⟩ := by
      rw [Yaml.Source.ofBytes, hpieces]
      rfl
    rw [hsource]
    rfl
  -- The third file escapes; the first two are of the kinds that do not.
  have hescapes := Escapes.unmade hbroken read_brokenByte nofun
  refine ⟨?_, ?_, ?_, ?_⟩
  · exact (loadsOrReports_iff _ _).2.2.1 _ ['[', ']'] hjson rfl
      (Digits.not_hasLongRow_of_length_le (by decide))
  · refine (loadsOrReports_iff _ _).2.2.2 _ hempty ?_ ?_
    · intro fault hfault
      rw [hnull] at hfault
      cases hfault
    · intro value hvalue
      rw [hnull] at hvalue
      cases hvalue
      exact nofun
  · intro h
    exact (loadsOrReports_iff _ _).1.mp h _ hescapes
  · exact (loadsOrReports_iff _ _).2.1 _ hescapes

end Batch

end SchemaMigration
