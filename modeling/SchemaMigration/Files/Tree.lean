import SchemaMigration.ErrorClass
import SchemaMigration.Files.Path
import SchemaMigration.Value.Display

/-!
# Trees of files

A tree says what stands at which place. A place is a path in which `..` stands only at the front of
a relative path: what lies outside the working directory can be named, too. A directory need not be
listed if something in it is.

Names and paths have a greatest length, which is counted in bytes. A name is looked at only when the
names before it have led to a directory; the path as a whole is looked at first.
-/

namespace SchemaMigration

/-- What stands at a place. -/
inductive FileEntry where
  | directory
  | file (content : List UInt8)
  deriving DecidableEq

/-- The entries of a tree with their places; of several at one place the first counts. -/
abbrev FileTree := List (FilePath × FileEntry)

/-- Why the system refuses to do something. -/
inductive FileError.Cause where
  | missing
  | occupied
  | notDirectory
  | isDirectory
  | nameTooLong
  /-- The path has a NUL in it, so it is not even asked for. -/
  | nul
  deriving DecidableEq

/-- A refusal and the path that was asked for. -/
structure FileError where
  cause : FileError.Cause
  path : FilePath
  deriving DecidableEq

namespace FileError

/-- The number of a cause and the words for it; a path that is not asked for has no number. -/
def Cause.words : Cause → String
  | missing => "[Errno 2] No such file or directory"
  | occupied => "[Errno 17] File exists"
  | notDirectory => "[Errno 20] Not a directory"
  | isDirectory => "[Errno 21] Is a directory"
  | nameTooLong => "[Errno 36] File name too long"
  | nul => "embedded null byte"

/-- The text that reports a refusal. -/
def message (error : FileError) : String :=
  if error.cause = .nul then error.cause.words
  else s!"{error.cause.words}: {Text.quoted error.path.render}"

/-- The class of a refusal; a path that is not asked for is a bad value. -/
def errorClass (error : FileError) : ErrorClass :=
  if error.cause = .nul then .valueError else .osError

end FileError

namespace FilePath

/-- One name further from a place: `..` leads up, from the root to the root. -/
def step (place : FilePath) (name : String) : FilePath :=
  if name ≠ ".." then place.child name
  else if place.names.all (· = "..") then
    if place.root = "" then place.child ".." else place
  else place.parent

/-- The greatest number of bytes in a name. -/
def maxNameSize : Nat := 255

/-- The greatest number of bytes in a path. -/
def maxSize : Nat := 4095

/-- Does a place lie strictly inside another one? -/
def isInside (inner outer : FilePath) : Bool :=
  inner.root = outer.root && outer.names.length < inner.names.length &&
    outer.names.isPrefixOf inner.names

end FilePath

namespace FileTree

/-- What stands at a place. The working directory and all above it are directories. -/
def entryAt (tree : FileTree) (place : FilePath) : Option FileEntry :=
  match tree.lookup place with
  | some entry => some entry
  | none =>
    if place.names.all (· = "..") || tree.any (·.1.isInside place) then some .directory else none

/-- The place that names lead to from a given place; all but the last must lead through
directories. -/
def walk (tree : FileTree) (place : FilePath) : List String → Except FileError.Cause FilePath
  | [] => .ok place
  | name :: rest =>
    match tree.entryAt place with
    | none => .error .missing
    | some (.file _) => .error .notDirectory
    | some .directory =>
      if FilePath.maxNameSize < name.utf8ByteSize then .error .nameTooLong
      else walk tree (place.step name) rest

/-- The place that a path leads to. -/
def place (tree : FileTree) (path : FilePath) : Except FileError.Cause FilePath :=
  let text := path.render
  if text.contains '\x00' then .error .nul
  else if FilePath.maxSize < text.utf8ByteSize then .error .nameTooLong
  else tree.walk ⟨path.root, []⟩ path.names

/-- What stands where a path leads, if anything does. A path that is too long is refused. -/
def find? (tree : FileTree) (path : FilePath) : Except FileError (Option FileEntry) :=
  match tree.place path with
  | .ok place => .ok (tree.entryAt place)
  | .error .nameTooLong => .error ⟨.nameTooLong, path⟩
  | .error _ => .ok none

/-- Does a path lead to a directory? -/
def hasDirectory (tree : FileTree) (path : FilePath) : Bool :=
  match tree.find? path with
  | .ok entry => entry = some .directory
  | .error _ => false

/-- The bytes of the file that a path leads to. -/
def read (tree : FileTree) (path : FilePath) : Except FileError (List UInt8) :=
  match tree.place path with
  | .error cause => .error ⟨cause, path⟩
  | .ok place =>
    match tree.entryAt place with
    | none => .error ⟨.missing, path⟩
    | some .directory => .error ⟨.isDirectory, path⟩
    | some (.file content) => .ok content

/-- The tree with an entry at a place. -/
def put (tree : FileTree) (place : FilePath) (entry : FileEntry) : FileTree :=
  match tree with
  | [] => [(place, entry)]
  | (other, old) :: rest =>
    if other = place then (place, entry) :: rest else (other, old) :: put rest place entry

/-- The tree with the given bytes in the file that a path leads to. -/
def write (tree : FileTree) (path : FilePath) (content : List UInt8) :
    Except FileError FileTree :=
  match tree.place path with
  | .error cause => .error ⟨cause, path⟩
  | .ok place =>
    if tree.entryAt place = some .directory then .error ⟨.isDirectory, path⟩
    else .ok (tree.put place (.file content))

/-- The tree with a new directory. -/
def makeDirectory (tree : FileTree) (path : FilePath) : Except FileError FileTree :=
  match tree.place path with
  | .error cause => .error ⟨cause, path⟩
  | .ok place =>
    if (tree.entryAt place).isSome then .error ⟨.occupied, path⟩
    else .ok (tree.put place .directory)

/-- The tree with a directory that may be there already. -/
def ensureDirectory (tree : FileTree) (path : FilePath) : Except FileError FileTree :=
  match tree.makeDirectory path with
  | .ok tree => .ok tree
  | .error error =>
    if error.cause ≠ .missing && tree.hasDirectory path then .ok tree else .error error

/-- The tree with a directory and all that lead to it; its names are given from the last one to the
first. What was made before a refusal stays. -/
def ensureDirectories (tree : FileTree) (root : String) :
    List String → FileTree × Except FileError Unit
  | [] =>
    match tree.ensureDirectory ⟨root, []⟩ with
    | .ok tree => (tree, .ok ())
    | .error error => (tree, .error error)
  | last :: before =>
    let path : FilePath := ⟨root, (last :: before).reverse⟩
    match tree.ensureDirectory path with
    | .ok tree => (tree, .ok ())
    | .error error =>
      if error.cause = .missing then
        match ensureDirectories tree root before with
        | (tree, .error error) => (tree, .error error)
        | (tree, .ok ()) =>
          match tree.ensureDirectory path with
          | .ok tree => (tree, .ok ())
          | .error error => (tree, .error error)
      else (tree, .error error)

end FileTree

end SchemaMigration
