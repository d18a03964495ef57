/-
StartupReport/Files.lean

A small file system: directories, and files with their text.

Names are resolved as a POSIX system does it, from the root or from the
working directory: an empty component and a single dot stay, two dots go up,
and every component but the last must be a directory.  A file is therefore
known by the components of its place, whatever name leads there.
-/
import StartupReport.Fault
import StartupReport.Text.Piece

namespace StartupReport

/-- A place in the file system, by its components from the root. -/
abbrev Place := List String

/-- Directories, files with their text, and the directory in which relative
names begin. -/
structure Files where
  working : Place
  directories : List Place
  texts : List (Place × String)

namespace Files

/-- The components of a name. -/
def components (path : String) : List String :=
  (Text.pieces '/' path.toList).map String.ofList

/-- A name begins at the root. -/
def isAbsolute (path : String) : Bool := path.toList.head? == some '/'

/-- A place is a directory; the working directory and all above it are. -/
def isDirectory (fs : Files) (place : Place) : Bool :=
  place.isPrefixOf fs.working || fs.directories.contains place

/-- The text of the file at a place. -/
def textAt? (fs : Files) (place : Place) : Option String := fs.texts.lookup place

/-- There is a directory or a file at a place. -/
def holds (fs : Files) (place : Place) : Bool := fs.isDirectory place || (fs.textAt? place).isSome

/-! ### Names and places -/

/-- Why a name leads nowhere. -/
inductive Obstacle
  /-- A component on the way does not exist. -/
  | missing
  /-- A component on the way is a file. -/
  | notDirectory
deriving DecidableEq, Repr

/-- The refusal that an obstacle on the way to a name amounts to. -/
def Obstacle.refuse (path : String) : Obstacle → FileError
  | .missing => .missing path
  | .notDirectory => .notDirectory path

/-- Follows components from a place, which must be a directory as long as there
are any. -/
def follow (fs : Files) (place : Place) : List String → Except Obstacle Place
  | [] => .ok place
  | c :: cs =>
    if fs.isDirectory place then
      if c = "" || c = "." then follow fs place cs
      else if c = ".." then follow fs place.dropLast cs
      else follow fs (place ++ [c]) cs
    else if (fs.textAt? place).isSome then .error .notDirectory
    else .error .missing

/-- The place that a name leads to, whether or not there is anything. -/
def resolve (fs : Files) (path : String) : Except Obstacle Place :=
  if path = "" then .error .missing
  else fs.follow (if isAbsolute path then [] else fs.working) (components path)

/-- There is a file or a directory under a name. -/
def existsAt (fs : Files) (path : String) : Bool :=
  match fs.resolve path with
  | .ok place => fs.holds place
  | .error _ => false

/-- There is a directory under a name. -/
def isDirectoryAt (fs : Files) (path : String) : Bool :=
  match fs.resolve path with
  | .ok place => fs.isDirectory place
  | .error _ => false

/-- The name of a place as seen from the working directory. -/
def relativeName (fs : Files) (place : Place) : String :=
  let shared := (place.zip fs.working).takeWhile (fun p => p.1 == p.2) |>.length
  "/".intercalate (List.replicate (fs.working.length - shared) ".." ++ place.drop shared)

/-! ### Reading and writing -/

/-- The text of the file under a name. -/
def read (fs : Files) (path : String) : Except FileError String := do
  let place ← (fs.resolve path).mapError (Obstacle.refuse path)
  if fs.isDirectory place then throw (.directory path)
  match fs.textAt? place with
  | some text => return text
  | none => throw (.missing path)

/-- The file system with one more directory. -/
def makeDirectory (fs : Files) (path : String) : Except FileError Files := do
  let place ← (fs.resolve path).mapError (Obstacle.refuse path)
  if fs.holds place then throw (.exists path)
  return { fs with directories := place :: fs.directories }

/-- The place under a name for a file to write; it must not be a directory, and
the directory that is to hold it must exist. -/
def placeToWrite (fs : Files) (path : String) : Except FileError Place := do
  let place ← (fs.resolve path).mapError (Obstacle.refuse path)
  if fs.isDirectory place then throw (.directory path)
  return place

end Files

/-! ### Names in normal form -/

/-- A name in normal form: absolute or not, and components without empty ones
and single dots. -/
structure PathName where
  absolute : Bool
  parts : List String
deriving DecidableEq, Repr

namespace PathName

/-- The normal form of a name. -/
def ofString (path : String) : PathName where
  absolute := Files.isAbsolute path
  parts := (Files.components path).filter fun c => c ≠ "" ∧ c ≠ "."

/-- A name in normal form as text; the empty one is a single dot. -/
def text (p : PathName) : String :=
  let joined := "/".intercalate p.parts
  if p.absolute then "/" ++ joined else if p.parts.isEmpty then "." else joined

/-- The name of the directory that holds what a name leads to. -/
def parent (p : PathName) : PathName := { p with parts := p.parts.dropLast }

end PathName

namespace Files

/-- A directory that is there already is as good as one just made. -/
def settle (fs : Files) (path : String) (made : Except FileError Files) :
    Except FileError Files :=
  match made with
  | .ok fs' => .ok fs'
  | .error e => if fs.isDirectoryAt path then .ok fs else .error e

/-- Makes a directory and those above it that are missing, given the components
of its name from the last to the first. -/
def makeDirectories (fs : Files) (absolute : Bool) : (reversed : List String) →
    Except FileError Files
  | [] =>
    let path := (PathName.mk absolute []).text
    fs.settle path (fs.makeDirectory path)
  | last :: above =>
    let path := (PathName.mk absolute (last :: above).reverse).text
    match fs.makeDirectory path with
    | .error (.missing _) => do
      let fs' ← makeDirectories fs absolute above
      fs'.settle path (fs'.makeDirectory path)
    | made => fs.settle path made

/-- Makes the directories above a file that is to be written. -/
def prepare (fs : Files) (p : PathName) : Except FileError Files :=
  fs.makeDirectories p.absolute p.parent.parts.reverse

end Files

end StartupReport
