import SchemaMigration.Proofs.SettingSources
import SchemaMigration.Proofs.Stages
import SchemaMigration.Proofs.TomlIntegers

/-!
# How settings are decided

Each setting has a variable of the environment and a key in the table of settings. The variable
decides it if it is set, and otherwise the table does (`decided`). From what is decided for the four
settings follows everything else: which of them is refused first (`firstRefusal?`) and, if none is,
what the settings are (`settingsOf`).
-/

namespace SchemaMigration

namespace Entries

variable {entries : Entries} {name other : String} {value : Value}

theorem get?_put_self : (entries.put (.text name) value).get? name = some value := by
  induction entries with
  | nil => simp [put, get?, Value.isText]
  | cons entry rest ih =>
    obtain ⟨key, old⟩ := entry
    rw [put]
    -- A key is replaced exactly where it would be found.
    by_cases hkey : key.sameKey (.text name) = true
    · have htext : key.isText name = true := by
        cases key <;> simp_all [Value.sameKey, Value.isText]
      rw [if_pos hkey, get?, if_pos htext]
    · have htext : ¬key.isText name = true := by
        cases key <;> simp_all [Value.sameKey, Value.isText]
      rw [if_neg hkey, get?, if_neg htext]
      exact ih

theorem get?_put_of_ne (h : name ≠ other) :
    (entries.put (.text name) value).get? other = entries.get? other := by
  induction entries with
  | nil => simp [put, get?, Value.isText, h]
  | cons entry rest ih =>
    obtain ⟨key, old⟩ := entry
    rw [put]
    -- The entry that is put in has another name, so it is passed over in the search.
    by_cases hkey : key.sameKey (.text name) = true
    · have htext : ¬key.isText other = true := by
        cases key <;> simp_all [Value.sameKey, Value.isText]
      rw [if_pos hkey, get?, get?, if_neg htext, if_neg htext]
    · rw [if_neg hkey, get?, get?, ih]

end Entries

namespace Settings

/-- The settings, in the order in which they are checked. -/
inductive Setting where
  | outputFormat
  | dialect
  | validate
  | terminator
  deriving DecidableEq

namespace Setting

def all : List Setting := [outputFormat, dialect, validate, terminator]

/-- The variable of the environment that sets it. -/
def variableName : Setting → String
  | outputFormat => "MIGRAST_FORMAT"
  | dialect => "MIGRAST_DIALECT"
  | validate => "MIGRAST_VALIDATE"
  | terminator => "MIGRAST_TERMINATOR"

def key : Setting → String
  | outputFormat => "output_format"
  | dialect => "dialect"
  | validate => "validate"
  | terminator => "terminator"

/-- Why the value that is decided for a setting is refused, if it is. A setting for which nothing is
decided takes its default and is not. -/
def refusal? : Setting → Option Value → Option Fault
  | _, none => none
  | outputFormat, some value =>
    if !value.isShowable then some .notShowable
    else if (OutputFormat.ofName? (Text.lower value.display)).isNone then
      some (.unknownFormat (Text.lower value.display))
    else none
  | dialect, some value => if value.isTruthy && !value.isShowable then some .notShowable else none
  | validate, some value => if value.toFlag?.isNone then some (.notAFlag value) else none
  | terminator, some value => if !value.isShowable then some .notShowable else none

theorem mem_all (setting : Setting) : setting ∈ all := by
  cases setting <;> decide

end Setting

/-- What the environment and a table decide for a setting. -/
def decided (environment : Environment) (table : Entries) (setting : Setting) : Option Value :=
  match environment.lookup setting.variableName with
  | some text => some (.text text)
  | none => table.get? setting.key

def firstRefusal? (decided : Setting → Option Value) : Option Fault :=
  Setting.all.findSome? fun setting => setting.refusal? (decided setting)

/-- The settings that follow from what is decided, where nothing is refused. -/
def settingsOf (decided : Setting → Option Value) : Settings where
  dialect := match decided .dialect with
    | some value => if value.isTruthy then value.display else defaultDialect
    | none => defaultDialect
  validate := match decided .validate with
    | some value => value.toFlag? = some true
    | none => false
  outputFormat := match decided .outputFormat with
    | some value => (OutputFormat.ofName? (Text.lower value.display)).getD .json
    | none => .json
  terminator := match decided .terminator with
    | some value => value.display
    | none => defaultTerminator

def outcomeOf (decided : Setting → Option Value) : Except Fault Settings :=
  match firstRefusal? decided with
  | some fault => .error fault
  | none => .ok (settingsOf decided)

theorem outcomeOf_eq_error_iff {decided : Setting → Option Value} {fault : Fault} :
    outcomeOf decided = .error fault ↔ firstRefusal? decided = some fault := by
  unfold outcomeOf
  cases firstRefusal? decided with
  | none => exact iff_of_false nofun nofun
  | some first => rw [Except.error.injEq, Option.some.injEq]

/-! ## From a table -/

/-- The table with what one variable sets put in under a name. -/
def overrideOne (environment : Environment) (entries : Entries) (names : String × String) :
    Entries :=
  match environment.lookup names.1 with
  | some text => entries.put (.text names.2) (.text text)
  | none => entries

theorem override_eq_foldl (environment : Environment) (entries : Entries) :
    override environment entries = environmentNames.foldl (overrideOne environment) entries := rfl

theorem get?_overrideOne_of_ne {environment : Environment} {entries : Entries}
    {names : String × String} {other : String} (h : names.2 ≠ other) :
    (overrideOne environment entries names).get? other = entries.get? other := by
  unfold overrideOne
  split
  · exact Entries.get?_put_of_ne h
  · rfl

theorem get?_overrideOne_self (environment : Environment) (entries : Entries) (setting : Setting) :
    (overrideOne environment entries (setting.variableName, setting.key)).get? setting.key =
      decided environment entries setting := by
  unfold overrideOne decided
  dsimp only
  split
  · exact Entries.get?_put_self
  · rfl

theorem get?_foldl_overrideOne_of_not_mem {environment : Environment}
    {names : List (String × String)} {other : String} (h : other ∉ names.map (·.2))
    (entries : Entries) :
    (names.foldl (overrideOne environment) entries).get? other = entries.get? other := by
  induction names generalizing entries with
  | nil => rfl
  | cons first rest ih =>
    obtain ⟨hfirst, hrest⟩ := not_or.mp (mt List.mem_cons.mpr h)
    rw [List.foldl_cons, ih hrest, get?_overrideOne_of_ne (Ne.symm hfirst)]

/-- Each name is put in by one step, and the steps for other names do not touch it. -/
theorem get?_foldl_overrideOne {environment : Environment} {names : List (String × String)}
    {setting : Setting} (hnodup : (names.map (·.2)).Nodup)
    (hmem : (setting.variableName, setting.key) ∈ names) (entries : Entries) :
    (names.foldl (overrideOne environment) entries).get? setting.key =
      decided environment entries setting := by
  induction names generalizing entries with
  | nil => cases hmem
  | cons first rest ih =>
    obtain ⟨hfirst, hrest⟩ := List.nodup_cons.mp hnodup
    rw [List.foldl_cons]
    rcases List.mem_cons.mp hmem with hsame | hlater
    · -- No later step has this key, so what is put in here stays.
      rw [← hsame] at hfirst ⊢
      rw [get?_foldl_overrideOne_of_not_mem hfirst]
      exact get?_overrideOne_self environment entries setting
    · -- The step for the setting is still to come, so this one is for another key.
      have hne : first.2 ≠ setting.key := by
        intro hkey
        exact hfirst (List.mem_map.mpr ⟨_, hlater, hkey.symm⟩)
      rw [ih hrest hlater]
      unfold decided
      rw [get?_overrideOne_of_ne hne]

/-- What the environment sets is found in the table, and the rest of the table is as it was. -/
theorem get?_override (environment : Environment) (entries : Entries) (setting : Setting) :
    (override environment entries).get? setting.key = decided environment entries setting := by
  have hnodup : (environmentNames.map (·.2)).Nodup := by decide
  have hmem : (setting.variableName, setting.key) ∈ environmentNames := by
    cases setting <;> decide
  rw [override_eq_foldl, get?_foldl_overrideOne hnodup hmem]

/-- What is found in a table under the keys of the settings. -/
def found (entries : Entries) (setting : Setting) : Option Value := entries.get? setting.key

/-- What a setting is, unless its value is refused. -/
def unlessRefused {α : Type} (refusal? : Option Fault) (a : α) : Except Fault α :=
  match refusal? with
  | some fault => .error fault
  | none => .ok a

section Table

variable (entries : Entries)

theorem outputFormatOf_eq :
    outputFormatOf entries =
      unlessRefused (Setting.outputFormat.refusal? (found entries .outputFormat))
        (settingsOf (found entries)).outputFormat := by
  simp only [outputFormatOf, settingsOf, found, Setting.key]
  -- Without a value there is nothing to refuse.
  cases entries.get? "output_format" with
  | none => rfl
  | some value =>
    dsimp only [Setting.refusal?, shown, bind, Except.bind]
    -- The name is looked up in the text of the value, and only if there is one.
    cases value.isShowable with
    | false => rfl
    | true =>
      rw [if_pos rfl]
      dsimp only
      cases OutputFormat.ofName? (Text.lower value.display) <;> rfl

theorem dialectOf_eq :
    dialectOf entries =
      unlessRefused (Setting.dialect.refusal? (found entries .dialect))
        (settingsOf (found entries)).dialect := by
  simp only [dialectOf, settingsOf, found, Setting.key]
  cases entries.get? "dialect" with
  | none => rfl
  | some value =>
    dsimp only [Setting.refusal?, shown]
    -- The text counts only where the value counts as present, and then it has to have one.
    cases value.isTruthy <;> cases value.isShowable <;> rfl

theorem validateOf_eq :
    validateOf entries =
      unlessRefused (Setting.validate.refusal? (found entries .validate))
        (settingsOf (found entries)).validate := by
  simp only [validateOf, settingsOf, found, Setting.key]
  cases entries.get? "validate" with
  | none => rfl
  | some value =>
    dsimp only [Setting.refusal?]
    -- A value is a flag of either kind, or no flag.
    rcases value.toFlag? with _ | _ | _ <;> rfl

theorem terminatorOf_eq :
    terminatorOf entries =
      unlessRefused (Setting.terminator.refusal? (found entries .terminator))
        (settingsOf (found entries)).terminator := by
  simp only [terminatorOf, settingsOf, found, Setting.key]
  cases entries.get? "terminator" with
  | none => rfl
  | some value =>
    dsimp only [Setting.refusal?, shown]
    -- Any value that has a text will do.
    cases value.isShowable <;> rfl

theorem ofEntries_eq : ofEntries entries = outcomeOf (found entries) := by
  unfold ofEntries outcomeOf firstRefusal? Setting.all
  rw [outputFormatOf_eq, dialectOf_eq, validateOf_eq, terminatorOf_eq]
  simp only [List.findSome?_cons, List.findSome?_nil]
  -- The checks stand in the order of the settings, so the first refusal is where they end.
  cases Setting.outputFormat.refusal? (found entries .outputFormat) with
  | some fault => rfl
  | none =>
    cases Setting.dialect.refusal? (found entries .dialect) with
    | some fault => rfl
    | none =>
      cases Setting.validate.refusal? (found entries .validate) with
      | some fault => rfl
      | none =>
        cases Setting.terminator.refusal? (found entries .terminator) with
        | some fault => rfl
        | none => rfl

end Table

/-! ## From files and the environment -/

theorem load_result_eq {tree : FileTree} {root : FilePath} {table : Entries}
    (h : (tableFrom tree root SourceFile.all).result = .ok table) (environment : Environment) :
    (load tree environment root).result = outcomeOf (decided environment table) := by
  have hfound : found (override environment table) = decided environment table :=
    funext (get?_override environment table)
  rw [load, Logged.result_bind, h]
  show ofEntries (override environment table) = _
  rw [ofEntries_eq, hfound]

/-- What the two files give; the entries for tools and for these settings in them are tables. -/
structure Sources (tree : FileTree) (root : FilePath) (project? own? : Option Entries) : Prop where
  project : SourceFile.project.Gives tree root project?
  own : SourceFile.own.Gives tree root own?
  projectTables : ∀ top, project? = some top → SourceFile.HasTables top
  ownTables : ∀ top, own? = some top → SourceFile.HasTables top

/-! ### A file with a hexadecimal terminator -/

/-- The key for the terminator, as its characters. -/
def terminatorName : List Char := ['t', 'e', 'r', 'm', 'i', 'n', 'a', 't', 'o', 'r']

/-- A tree with nothing but the settings' own file, which sets the terminator to an integer. -/
def besideOwn (digits : List Char) : FileTree :=
  [(⟨"", ["migrast.toml"]⟩, .file (Text.asciiBytes (Toml.hexLine terminatorName digits)))]

def hexTable (digits : List Char) : Entries :=
  [(.text "terminator", .int (.ofNat (Toml.hexNumber digits)))]

theorem outcomeOf_intTerminator (n : Int) :
    outcomeOf (decided [] [(.text "terminator", .int n)]) =
      if Digits.isWritable n then .ok ⟨defaultDialect, false, .json, toString n⟩
      else .error .notShowable := by
  have hshowable : (Value.int n).isShowable = Digits.isWritable n := by
    rw [Value.isShowable, Value.isShowableWithin]
  -- Only the terminator is given; the other settings are as they are by default.
  have hdecided : ∀ setting, decided [] [(.text "terminator", .int n)] setting =
      if setting = .terminator then some (.int n) else none := by
    intro setting
    cases setting <;> rfl
  rw [funext hdecided, outcomeOf, firstRefusal?, Setting.all]
  simp only [List.findSome?_cons, List.findSome?_nil, Setting.refusal?, hshowable, reduceCtorEq,
    if_false, if_true]
  cases Digits.isWritable n <;> rfl

section HexTerminator

variable {first : Char} {digits : List Char}
  (hdigits : ∀ c ∈ first :: digits, Toml.isDigitIn 16 c = true)

include hdigits

theorem sources_besideOwn :
    Sources (besideOwn (first :: digits)) ⟨"", []⟩ none (some (hexTable (first :: digits))) := by
  -- The characters of the name are tested one by one; a quantifier would range over all there are.
  have hname : ∀ c ∈ terminatorName, Toml.isKeyChar c = true := List.all_eq_true.mp rfl
  -- The first file is not there, and the second one holds the line.
  have hproject : (besideOwn (first :: digits)).find? (SourceFile.project.path ⟨"", []⟩) =
      .ok none := by
    show FileTree.find? _ ⟨"", ["pyproject.toml"]⟩ = _
    rw [FileTree.find?, CommandLine.place_eq_walk (by decide) (by decide)]
    rfl
  have hread : (besideOwn (first :: digits)).read (SourceFile.own.path ⟨"", []⟩) =
      .ok (Text.asciiBytes (Toml.hexLine terminatorName (first :: digits))) := by
    show FileTree.read _ ⟨"", ["migrast.toml"]⟩ = _
    rw [FileTree.read, CommandLine.place_eq_walk (by decide) (by decide)]
    rfl
  have htool : Entries.get? (hexTable (first :: digits)) "tool" = none := rfl
  have hentry : SourceFile.toolEntry? (hexTable (first :: digits)) = none := by
    rw [SourceFile.toolEntry?, htool]
  refine ⟨.absent hproject, .document ⟨hread, Toml.ofUtf8_hexLine hname hdigits⟩
    (Toml.read_hexLine hname hdigits), ?_, ?_⟩
  · intro top htop
    cases htop
  · intro top htop
    cases htop
    -- There is no table for tools, so nothing stands where a table should.
    refine ⟨?_, ?_⟩
    · intro value hvalue
      rw [htool] at hvalue
      cases hvalue
    · intro value hvalue
      rw [hentry] at hvalue
      cases hvalue

theorem load_besideOwn :
    (load (besideOwn (first :: digits)) [] ⟨"", []⟩).result =
      if Digits.isWritable (.ofNat (Toml.hexNumber (first :: digits))) then
        .ok ⟨defaultDialect, false, .json, toString (Int.ofNat (Toml.hexNumber (first :: digits)))⟩
      else .error .notShowable := by
  have hsources := sources_besideOwn hdigits
  have hload := load_result_eq (tableFrom_eq_chosen hsources.own hsources.ownTables
    hsources.project hsources.projectTables) []
  exact hload.trans (outcomeOf_intTerminator _)

end HexTerminator

/-! ### One setting at a time -/

theorem firstRefusal?_isSome_iff {decided : Setting → Option Value} :
    (firstRefusal? decided).isSome ↔
      ∃ setting : Setting, (setting.refusal? (decided setting)).isSome := by
  rw [firstRefusal?, List.findSome?_isSome_iff]
  constructor
  · rintro ⟨setting, -, h⟩
    exact ⟨setting, h⟩
  · rintro ⟨setting, h⟩
    exact ⟨setting, setting.mem_all, h⟩

/-- **Each setting is decided by itself**: by its variable, or else by the chosen table, or else by
its default. Settings cannot be loaded exactly when one of the values so decided is refused. What is
not decisive has no influence on the outcome. -/
theorem load_decided {tree : FileTree} {root : FilePath} {project? own? : Option Entries}
    (h : Sources tree root project? own?) (environment : Environment) :
    (load tree environment root).result =
        outcomeOf (decided environment (chosen project? own?)) ∧
      ((∃ fault, (load tree environment root).result = .error fault) ↔
        ∃ setting : Setting,
          (setting.refusal? (decided environment (chosen project? own?) setting)).isSome) ∧
      ∀ tree' root' project?' own?' environment', Sources tree' root' project?' own?' →
        (∀ setting, decided environment' (chosen project?' own?') setting =
          decided environment (chosen project? own?) setting) →
        (load tree' environment' root').result = (load tree environment root).result := by
  -- The result is what is decided, for any tree; both other parts are read off from that.
  have hresult : ∀ {tree root project? own?}, Sources tree root project? own? → ∀ environment,
      (load tree environment root).result =
        outcomeOf (decided environment (chosen project? own?)) := by
    intro tree root project? own? h environment
    exact load_result_eq
      (tableFrom_eq_chosen h.own h.ownTables h.project h.projectTables) environment
  refine ⟨hresult h environment, ?_, ?_⟩
  · -- Some setting is refused exactly when there is a first one that is.
    rw [hresult h environment, ← firstRefusal?_isSome_iff, Option.isSome_iff_exists]
    exact exists_congr fun _ => outcomeOf_eq_error_iff
  · intro tree' root' project?' own?' environment' h' hsame
    rw [hresult h' environment', hresult h environment, funext hsame]

/-- An integer that cannot be written in decimal, as hexadecimal digits. -/
def longDigits : List Char := '1' :: List.replicate 3600 '0'

theorem isDigitIn_longDigits : ∀ c ∈ longDigits, Toml.isDigitIn 16 c = true := by
  refine List.forall_mem_cons.mpr ⟨rfl, ?_⟩
  intro c hc
  rw [List.eq_of_mem_replicate hc]
  rfl

/-- The environment sets the terminator, and what the files say about it does not count. -/
theorem load_decided_overridden :
    (load (besideOwn longDigits) [("MIGRAST_TERMINATOR", ";")] ⟨"", []⟩).result =
        .ok ⟨"postgres", false, .json, ";"⟩ ∧
      (load (besideOwn ['f']) [("MIGRAST_TERMINATOR", ";")] ⟨"", []⟩).result =
        (load (besideOwn longDigits) [("MIGRAST_TERMINATOR", ";")] ⟨"", []⟩).result := by
  have hlong : Sources (besideOwn longDigits) ⟨"", []⟩ none (some (hexTable longDigits)) :=
    sources_besideOwn isDigitIn_longDigits
  have hshort : Sources (besideOwn ['f']) ⟨"", []⟩ none (some (hexTable ['f'])) :=
    sources_besideOwn (List.forall_mem_singleton.mpr rfl)
  obtain ⟨hresult, -, hsame⟩ := load_decided hlong [("MIGRAST_TERMINATOR", ";")]
  -- The variable wins over the file, whatever the file holds.
  have hdecided : decided [("MIGRAST_TERMINATOR", ";")] (chosen none (some (hexTable longDigits))) =
      fun setting => if setting = .terminator then some (.text ";") else none := by
    funext setting
    cases setting <;> rfl
  rw [hdecided] at hresult
  refine ⟨hresult.trans rfl, hsame _ _ _ _ _ hshort ?_⟩
  rw [hdecided]
  intro setting
  cases setting <;> rfl

/-- Without the variable, the terminator in the file decides. No value is decided for the format or
for the flag, and still there are no settings: the terminator has no decimal text. -/
theorem load_longTerminator :
    Sources (besideOwn longDigits) ⟨"", []⟩ none (some (hexTable longDigits)) ∧
      decided [] (chosen none (some (hexTable longDigits))) .outputFormat = none ∧
      decided [] (chosen none (some (hexTable longDigits))) .validate = none ∧
      (load (besideOwn longDigits) [] ⟨"", []⟩).result = .error .notShowable := by
  -- The digits are not read one by one: they write a power of sixteen.
  have hlong : Digits.isWritable (.ofNat (Toml.hexNumber longDigits)) = false := by
    rw [longDigits, Toml.hexNumber_zeros]
    decide +kernel
  refine ⟨sources_besideOwn isDigitIn_longDigits, rfl, rfl, ?_⟩
  have hload := load_besideOwn isDigitIn_longDigits
  rw [← longDigits, hlong] at hload
  exact hload

end Settings

end SchemaMigration
