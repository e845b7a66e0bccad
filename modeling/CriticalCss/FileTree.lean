import CriticalCss.Text.Utf8

/-!
# File trees

Files and directories by the names that lead to them, from the present directory or from a root.  On
the way `..` leads back up, and above the present directory to places that have no other names.
-/

namespace CriticalCss

/-- A path: where it starts from, and the names along it. -/
structure FilePath where
  root : String
  names : List String
  deriving DecidableEq

namespace FilePath

/-- The start of a path that begins with some number of slashes: two of them have a meaning of their
own. -/
def rootOf (slashes : Nat) : String :=
  if slashes = 0 then "" else if slashes = 2 then "//" else "/"

/-- The path that a text denotes; empty names and single dots lead nowhere and are left out. -/
def ofText (text : String) : FilePath where
  root := rootOf (text.toList.takeWhile (· == '/')).length
  names := (text.splitOn "/").filter fun name => !name.isEmpty && name != "."

/-- The name of the root, if there is one. -/
def start (path : FilePath) : List String := if path.root.isEmpty then [] else [path.root]

/-- The names that lead to a path, the root being the first one if there is one. -/
def steps (path : FilePath) : List String := path.start ++ path.names

/-- The text of a path. -/
def render (path : FilePath) : String :=
  let text := path.root ++ "/".intercalate path.names
  if text.isEmpty then "." else text

end FilePath

/-- What lies at a place in a file tree. -/
inductive FileEntry where
  | file (bytes : List Nat)
  | directory
  deriving DecidableEq

/-- Files and directories by the names that lead to them.  A place on the way to another is a
directory. -/
structure FileTree where
  entries : List (List String × FileEntry)

/-- Why a file cannot be read. -/
inductive FileFailure where
  | missing
  | isDirectory
  | notDirectory
  | nameTooLong
  deriving DecidableEq

/-- A description of the failure. -/
def FileFailure.message : FileFailure → String
  | missing => "No such file or directory"
  | isDirectory => "Is a directory"
  | notDirectory => "Not a directory"
  | nameTooLong => "File name too long"

namespace FileTree

/-- The number of bytes that the system allows in a name. -/
def nameLimit : Nat := 255

/-- The number of bytes that the system allows in a path. -/
def pathLimit : Nat := 4095

/-- A place: the names that lead to it from the present directory or from a root.  Above the present
directory it consists of `..` alone, or begins so. -/
abbrev Place := List String

/-- Whether a place is a root. -/
def isRoot (place : Place) : Bool := place == ["/"] || place == ["//"]

/-- Whether a place is the present directory or one that holds it. -/
def isUpward (place : Place) : Bool := place.all (· == "..")

/-- The place above a place; a root lies above itself. -/
def parent (place : Place) : Place :=
  if isRoot place then place
  else if isUpward place then place ++ [".."]
  else place.dropLast

/-- The place that a name leads to from a place. -/
def follow (place : Place) (name : String) : Place :=
  if name = ".." then parent place else place ++ [name]

/-- What lies at a place. -/
def find? (tree : FileTree) (place : Place) : Option FileEntry :=
  match tree.entries.lookup place with
  | some entry => some entry
  | none =>
    if isRoot place || isUpward place || tree.entries.any (place.isPrefixOf ·.1) then
      some .directory
    else none

/-- Walks along names from a place. -/
def walk (tree : FileTree) : Place → List String → Except FileFailure FileEntry
  | place, [] =>
    match tree.find? place with
    | some entry => .ok entry
    | none => .error .missing
  | place, name :: rest =>
    match tree.find? place with
    | none => .error .missing
    | some (.file _) => .error .notDirectory
    | some .directory =>
      if nameLimit < name.utf8ByteSize then .error .nameTooLong
      else walk tree (follow place name) rest

/-- The places that names lead through from a place. -/
def placesAlong : Place → List String → List Place
  | _, [] => []
  | place, name :: rest => follow place name :: placesAlong (follow place name) rest

/-- A tree in which a path leads to an entry. -/
def leadingTo (path : FilePath) (entry : FileEntry) : FileTree :=
  let places := placesAlong path.start path.names
  ⟨(places.getLastD path.start, entry) :: places.map (·, .directory)⟩

/-- The bytes of the file at a path. -/
def read (tree : FileTree) (path : FilePath) : Except FileFailure (List Nat) :=
  if pathLimit < path.render.utf8ByteSize then .error .nameTooLong
  else
    match tree.walk path.start path.names with
    | .ok (.file bytes) => .ok bytes
    | .ok .directory => .error .isDirectory
    | .error failure => .error failure

end FileTree

end CriticalCss
