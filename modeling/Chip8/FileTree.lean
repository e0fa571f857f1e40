import Chip8.Text.Fields

/-!
# File trees

A tree of directories and files, and how a path is followed in it. A path is a row of names with
slashes between them; an empty name and a single dot stay where they are, two dots go one up, and any
other name goes down. All names but the last must lead to directories, and the last one to a file.

The tree hangs in a directory of which nothing else is known, so that a path that leaves it, or starts
with a slash, finds no file.

* `FileTree.read` — the content of the file at a path;
* `FileTree.ofPaths` — the tree that is made by files and directories in turn;
* `FileTree.find?_put` — what is made last at a place is found there.
-/

namespace Chip8

/-- Why a file cannot be read. -/
inductive FileError
  | notFound
  | isDirectory
  /-- The path goes on behind a file. -/
  | notADirectory
  /-- The path holds the character with the code zero. -/
  | badPath
  | noPath
  | tooLong
  deriving DecidableEq

/-- Directories and files by the names that lead to them from the top, the latest first. A directory
has no content. -/
structure FileTree where
  entries : List (List String × Option (List UInt8))

namespace FileTree

def nameLimit : Nat := 255

def pathLimit : Nat := 4095

def names (path : String) : List String :=
  (Text.fields '/' path.toList).map String.ofList

/-- Where a path leads from a place inside the tree if all the directories on the way are there. -/
def walk (place : List String) : List String → List String
  | [] => place
  | name :: rest =>
    if name = "" ∨ name = "." then walk place rest
    else if name = ".." then walk place.dropLast rest
    else walk (place ++ [name]) rest

/-- Makes a file or a directory at a place. -/
def put (t : FileTree) (place : List String) (content : Option (List UInt8)) : FileTree :=
  ⟨(place, content) :: t.entries⟩

/-- The tree that is made by the given files and directories in turn, each by its path. -/
def ofPaths (entries : List (String × Option (List UInt8))) : FileTree :=
  entries.foldl (fun t entry => t.put (walk [] (names entry.1)) entry.2) ⟨[]⟩

/-- What the given names lead to from the top: a file with its content, or a directory. A directory
is there also if only something inside it is. -/
def find? (t : FileTree) (place : List String) : Option (Option (List UInt8)) :=
  match t.entries.find? fun entry => entry.1 == place with
  | some (_, content) => some content
  | none =>
    if t.entries.any fun entry => place.isPrefixOf entry.1 then some none else none

theorem find?_put (t : FileTree) (place : List String) (content : Option (List UInt8)) :
    (t.put place content).find? place = some content := by
  simp [find?, put]

/-- Follows names from a directory, or from somewhere outside the tree. -/
def follow (t : FileTree) (here : Option (List String)) :
    List String → Except FileError (List UInt8)
  | [] => .error .isDirectory
  | name :: rest =>
    if name = "" ∨ name = "." then t.follow here rest
    else if name = ".." then
      match here with
      | some (inner :: outer) => t.follow (some (inner :: outer).dropLast) rest
      | _ => t.follow none rest
    else if nameLimit < name.utf8ByteSize then .error .tooLong
    else
      match here with
      | none => .error .notFound
      | some place =>
        match t.find? (place ++ [name]) with
        | none => .error .notFound
        | some none => t.follow (some (place ++ [name])) rest
        | some (some content) => if rest = [] then .ok content else .error .notADirectory

/-- The content of the file at a path. -/
def read (t : FileTree) (path : String) : Except FileError (List UInt8) :=
  if path.toList.contains (Char.ofNat 0) then .error .badPath
  else if path = "" then .error .notFound
  else if pathLimit < path.utf8ByteSize then .error .tooLong
  else
    let start := if path.startsWith "/" then none else some []
    t.follow start (names path)

end FileTree

end Chip8
