import Ls8.Text.Utf8

/-!
# Files

A working directory with files in it, perhaps in directories of their own. Files are named by
paths; a path is followed name by name, `.` and empty names stand for the place itself and `..` for
the directory above. Places above the working directory begin with `..`, those that are named from
the root of the system with `/`. Of the latter only a few directories and the empty device are
known.
-/

namespace Ls8

/-- Why a file cannot be read or created. -/
inductive FileError where
  | missing
  | isDirectory
  | notDirectory
  | nameTooLong
  | nullInPath
  | notText
  /-- Any other cause, with its text. -/
  | other (text : String)
deriving DecidableEq

def FileError.message : FileError → String
  | missing => "No such file or directory (os error 2)"
  | isDirectory => "Is a directory (os error 21)"
  | notDirectory => "Not a directory (os error 20)"
  | nameTooLong => "File name too long (os error 36)"
  | nullInPath => "file name contained an unexpected NUL byte"
  | notText => "stream did not contain valid UTF-8"
  | other text => text

/-- The names on the way to a file. -/
abbrev Place := List String

/-- The files of a working directory. -/
structure Files where
  entries : List (Place × List UInt8)

namespace Files

def empty : Files :=
  ⟨[]⟩

def content? (files : Files) (place : Place) : Option (List UInt8) :=
  files.entries.lookup place

/-- A place is the working directory or above it. -/
def isAbove (place : Place) : Bool :=
  place.all (· == "..")

def root : Place := ["/"]

/-- The directories that every system has. -/
def systemDirectories : List Place :=
  [root, root ++ ["dev"], root ++ ["tmp"]]

/-- The device that is empty and keeps nothing. -/
def nullDevice : Place := root ++ ["dev", "null"]

def isDirectory (files : Files) (place : Place) : Bool :=
  isAbove place || systemDirectories.contains place ||
    files.entries.any fun (p, _) => place.isPrefixOf p && place != p

def parent (place : Place) : Place :=
  if isAbove place then ".." :: place else if place = root then root else place.dropLast

/-- What a path leads to. -/
inductive Target where
  | file (place : Place) (content : List UInt8)
  | directory
  | null
  /-- Nothing is there, but a file could be. -/
  | free (place : Place)
deriving DecidableEq

def maxName : Nat := 255

def maxPath : Nat := 4095

/-- A name has more octets than a directory can hold. -/
def isTooLong (name : String) : Bool :=
  maxName < name.utf8ByteSize

/-- Follows names from a directory on. -/
def follow (files : Files) (place : Place) : List String → Except FileError Target
  | [] => .ok .directory
  | name :: rest =>
    if name = "" ∨ name = "." then files.follow place rest
    else if name = ".." then files.follow (parent place) rest
    else if isTooLong name then .error .nameTooLong
    else
      let next := place ++ [name]
      match files.content? next with
      | some content => if rest.isEmpty then .ok (.file next content) else .error .notDirectory
      | none =>
        if next = nullDevice then if rest.isEmpty then .ok .null else .error .notDirectory
        else if files.isDirectory next then files.follow next rest
        else if rest.isEmpty then .ok (.free next)
        else .error .missing

def names (path : String) : List String :=
  (path.toList.splitOn '/').map String.ofList

/-- Refuses what is no path at all. -/
def check (path : String) : Except FileError Unit :=
  if path.toList.contains (Char.ofNat 0) then .error .nullInPath
  else if maxPath < path.utf8ByteSize then .error .nameTooLong
  else if path = "" then .error .missing
  else .ok ()

/-- The place where a path begins. -/
def start (path : String) : Place :=
  if path.toList.head? = some '/' then root else []

/-- What a path leads to. -/
def find (files : Files) (path : String) : Except FileError Target := do
  check path
  files.follow (start path) (names path)

def read (files : Files) (path : String) : Except FileError (List UInt8) := do
  match ← files.find path with
  | .file _ content => return content
  | .null => return []
  | .directory => throw .isDirectory
  | .free _ => throw .missing

/-- The files with new content at a place. -/
def put (files : Files) (place : Place) (content : List UInt8) : Files :=
  ⟨(place, content) :: files.entries.filter (·.1 ≠ place)⟩

def withoutSlash (path : String) : String :=
  String.ofList (path.toList.reverse.dropWhile (· == '/')).reverse

/-- Creates a file, or replaces its content. A path that ends in a slash names a directory, whatever
its last name is. -/
def create (files : Files) (path : String) (content : List UInt8) : Except FileError Files := do
  let name := withoutSlash path
  if name = path then
    match ← files.find path with
    | .file place _ | .free place => return files.put place content
    | .null => return files
    | .directory => throw .isDirectory
  else
    check path
    let _ ← files.follow (start path) ((names name).dropLast ++ ["."])
    throw .isDirectory

def pathOf (place : Place) : String :=
  "/".intercalate place

/-- The files of the working directory that are new or have another content than before. -/
def changes (before after : Files) : List (Place × List UInt8) :=
  after.entries.filter fun (place, content) =>
    place.head? != some ".." && place.head? != root.head? && before.content? place != some content

end Files

/-! ## File names -/

/-- The position of the last dot of a name, unless it is the first character. -/
def stemLength? (name : List Char) : Option Nat :=
  let ending := name.reverse.takeWhile (· != '.')
  if ending.length + 1 < name.length then some (name.length - ending.length - 1) else none

/-- A path whose last name has another ending; a name without one gets it appended. Where only a
dot is left in front of the ending, the two dots are all of the name: they name a directory, which
has no ending. -/
def withEnding (path ending : String) : String :=
  let name := (path.toList.reverse.takeWhile (· != '/')).reverse
  let directory := path.toList.take (path.toList.length - name.length)
  let stem := name.take ((stemLength? name).getD name.length)
  String.ofList (directory ++ if stem = ['.'] then ['.', '.'] else stem ++ '.' :: ending.toList)

end Ls8
