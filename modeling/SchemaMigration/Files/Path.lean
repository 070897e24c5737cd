/-!
# Paths of files

A path is a root and the names behind it. Its text leaves out empty names and `.`, since they lead
nowhere; `..` is kept, since it leads up from wherever the names before it lead.
-/

namespace SchemaMigration

/-- A path: the slashes at its start and the names that they and each other slash set apart. -/
structure FilePath where
  root : String
  names : List String
  deriving DecidableEq

namespace FilePath

/-- The root that a text starts with: none, one slash, or two slashes where there are exactly two.
-/
def rootOf : List Char → String
  | '/' :: '/' :: '/' :: _ => "/"
  | '/' :: '/' :: _ => "//"
  | '/' :: _ => "/"
  | _ => ""

/-- The parts of a text between slashes, empty ones included. -/
def split : List Char → List (List Char)
  | [] => [[]]
  | c :: rest =>
    if c = '/' then [] :: split rest
    else match split rest with
      | [] => [[c]]
      | first :: others => (c :: first) :: others

/-- Does a name lead nowhere? -/
def isIdle (name : List Char) : Bool := name.isEmpty || name = ['.']

/-- The path that a text writes. -/
def ofText (text : String) : FilePath :=
  ⟨rootOf text.toList, ((split text.toList).filter (!isIdle ·)).map String.ofList⟩

/-- The text of a path; the path to where one stands is a dot. -/
def render (path : FilePath) : String :=
  if path.root = "" ∧ path.names.isEmpty then "." else path.root ++ "/".intercalate path.names

/-- The last name of a path, or nothing. -/
def name (path : FilePath) : String := path.names.getLast?.getD ""

/-- The ending of a name: its last dot and what follows, unless the dot is the first character or
the last one. -/
def endingOf (name : List Char) : List Char :=
  let behind := (name.reverse.takeWhile (· ≠ '.')).reverse
  if behind.isEmpty || name.length ≤ behind.length + 1 then [] else '.' :: behind

/-- The ending of the last name of a path. -/
def ending (path : FilePath) : String := String.ofList (endingOf path.name.toList)

/-- The path without its last name. -/
def parent (path : FilePath) : FilePath := ⟨path.root, path.names.dropLast⟩

/-- The path with one more name. -/
def child (path : FilePath) (name : String) : FilePath := ⟨path.root, path.names ++ [name]⟩

end FilePath

end SchemaMigration
