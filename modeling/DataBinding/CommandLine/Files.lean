/-
Files as the commands use them: one is read, a directory is made with all
that lead to it, and files are written into it. Commands reach files only
through a `FileAccess`, so that they run on a disk and in memory alike.

A `FileTree` is a working directory in memory. Places are told apart by
the names that lead to them from there; what lies above it or at the root
of all paths is known to be there, and otherwise empty.
-/
import DataBinding.Text.Segments

namespace DataBinding.CommandLine

-- =============================================================== faults

/-- What the system has against using a path. -/
inductive SystemFault
  | notFound
  | alreadyThere
  | notDirectory
  | isDirectory
  | nameTooLong
  | notText
  /-- Any other fault, in the words of the system. -/
  | other (text : String)
  deriving DecidableEq

def SystemFault.message : SystemFault → String
  | .notFound => "No such file or directory (os error 2)"
  | .alreadyThere => "File exists (os error 17)"
  | .notDirectory => "Not a directory (os error 20)"
  | .isDirectory => "Is a directory (os error 21)"
  | .nameTooLong => "File name too long (os error 36)"
  | .notText => "stream did not contain valid UTF-8"
  | .other text => text

/-- The uses of files, in any monad that has them. -/
structure FileAccess (m : Type → Type) where
  /-- The text of a file. -/
  read : String → m (Except SystemFault String)
  /-- Make a directory and all that lead to it, unless they are there. -/
  makeDirectory : String → m (Except SystemFault Unit)
  /-- Write a text into a directory, under a file name. -/
  write : String → String → String → m (Except SystemFault Unit)

-- ================================================================ paths

/-- The names that lead to a place from the working directory. -/
abbrev Place := List String

/-- The steps that a path takes. -/
def steps (path : String) : List String :=
  let names := (Text.pieces (· == '/') path.toList).map String.ofList
  (if path.toList.head? = some '/' then ["/"] else []) ++ names.filter (· != "")

def endsInSlash (path : String) : Bool := path.toList.getLast? == some '/'

/-- Take one step from a directory. -/
def Place.step (place : Place) (name : String) : Place :=
  if name = "." then place
  else if name = ".." then
    match place.getLast? with
    | none => [".."]
    | some last =>
      if last = ".." then place ++ [".."] else if last = "/" then place else place.dropLast
  else place ++ [name]

-- ================================================================ trees

structure FileTree where
  files : List (Place × ByteArray) := []
  directories : List Place := []

namespace FileTree

variable (tree : FileTree)

def content? (place : Place) : Option ByteArray := tree.files.lookup place

def isFile (place : Place) : Bool := (tree.content? place).isSome

/-- Whether a directory is there: the working one, one above it, the root
of all paths, or one that was made. -/
def hasDirectory (place : Place) : Bool :=
  place.all (fun name => name == ".." || name == "/") || tree.directories.contains place

/-- The longest name that a file can have, in bytes. -/
def nameLimit : Nat := 255

/-- The longest path that can be asked for, in bytes. -/
def pathLimit : Nat := 4095

/-- Walk from a place; every place that is left has to be a directory. -/
def walk (place : Place) : List String → Except SystemFault Place
  | [] => .ok place
  | name :: rest =>
    if tree.isFile place then .error .notDirectory
    else if !tree.hasDirectory place then .error .notFound
    else if nameLimit < name.utf8ByteSize then .error .nameTooLong
    else walk (place.step name) rest

def read (path : String) : Except SystemFault String := do
  if pathLimit < path.utf8ByteSize then throw .nameTooLong
  let place ← tree.walk [] (steps path)
  match tree.content? place with
  | some bytes =>
    if endsInSlash path then throw .notDirectory
    else
      match String.fromUTF8? bytes with
      | some text => return text
      | none => throw .notText
  | none => throw (if tree.hasDirectory place then .isDirectory else .notFound)

/-- Make the last directory of a path, unless it is there; all that lead to
it have to be. -/
def makeLast (names : List String) : Except SystemFault FileTree := do
  let place ← tree.walk [] names
  if tree.isFile place then throw .alreadyThere
  else if tree.hasDirectory place then return tree
  else return { tree with directories := place :: tree.directories }

/-- Make the directories of a path, given with its last step first. A path
is tried as a whole before those that lead to it; a dot is nothing to make. -/
def makeBackwards (tree : FileTree) : List String → Except SystemFault FileTree
  | [] => .ok tree
  | name :: before =>
    if name = "." then makeBackwards tree before
    else
      match tree.makeLast (name :: before).reverse with
      | .error .notFound => do (← makeBackwards tree before).makeLast (name :: before).reverse
      | result => result

/-- Make a directory and all that lead to it. Of a path that ends in dots
the step before them is not made. -/
def makeDirectory (path : String) : Except SystemFault FileTree :=
  let names := steps path
  if pathLimit < path.utf8ByteSize then .error .nameTooLong
  else
    match tree.makeLast names with
    | .error .notFound => do
      let bare := names.reverse.dropWhile (· == ".")
      (← tree.makeBackwards bare.tail).makeLast names
    | result => result

/-- The size of the path of a file in a directory. -/
def pathSize (directory fileName : String) : Nat :=
  directory.utf8ByteSize + (if endsInSlash directory then 0 else 1) + fileName.utf8ByteSize

/-- Write a text into a directory, over what the file held. -/
def write (directory fileName text : String) : Except SystemFault FileTree := do
  if pathLimit < pathSize directory fileName then throw .nameTooLong
  let place ← tree.walk [] (steps directory ++ steps fileName)
  if tree.hasDirectory place then throw .isDirectory
  else
    let others := tree.files.filter fun file => file.1 != place
    return { tree with files := others ++ [(place, text.toUTF8)] }

/-- A tree as the files that a command uses. -/
def access : FileAccess (StateM FileTree) where
  read path := do return (← get).read path
  makeDirectory path := do
    match (← get).makeDirectory path with
    | .ok tree =>
      set tree
      return .ok ()
    | .error fault => return .error fault
  write directory fileName text := do
    match (← get).write directory fileName text with
    | .ok tree =>
      set tree
      return .ok ()
    | .error fault => return .error fault

end FileTree

end DataBinding.CommandLine
