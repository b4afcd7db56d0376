import TableQuery.Fault
import TableQuery.Files.Path

/-!
# File trees

A tree maps places, the lists of names from the root, to directories and text files.  The
operations are those of a file system without links: every name on the way to a file has to be a
directory, and each operation that fails names the path it was given.
-/

namespace TableQuery
namespace Files

/-- What stands at a place of a tree. -/
inductive Node where
  | directory
  | file (content : String)
deriving DecidableEq, Repr

/-- A node with its place. -/
structure Entry where
  /-- The count of names in the place, which tells most places apart at once. -/
  depth : Nat
  place : List String
  node : Node
deriving DecidableEq, Repr

/-- Whether an entry stands at a place of a depth. -/
def Entry.standsAt (entry : Entry) (depth : Nat) (place : List String) : Bool :=
  entry.depth == depth && entry.place == place

/-- A file tree.  The root is always a directory. -/
structure Tree where
  entries : List Entry := []

namespace Tree

/-- What stands at a place. -/
def node? (tree : Tree) (place : List String) : Option Node :=
  if place.isEmpty then some .directory
  else
    let depth := place.length
    (tree.entries.find? (·.standsAt depth place)).map (·.node)

/-- Puts a node at a place. -/
def put (tree : Tree) (place : List String) (node : Node) : Tree :=
  let depth := place.length
  { tree with
    entries := ⟨depth, place, node⟩ ::
      tree.entries.filter fun entry => !entry.standsAt depth place }

end Tree

/-! ## Problems -/

/-- The reason for which an operation on files fails. -/
inductive Trouble where
  | missing
  | exists
  | notDirectory
  | isDirectory
  | nameTooLong
  /-- A path with a NUL character, which no system takes. -/
  | nulCharacter
  /-- Too many missing directories above one another. -/
  | tooDeep
deriving DecidableEq, Repr

namespace Trouble

/-- The number of a reason for which the system refuses; the others have none. -/
def number : Trouble → Nat
  | .missing => 2
  | .exists => 17
  | .notDirectory => 20
  | .isDirectory => 21
  | .nameTooLong => 36
  | .nulCharacter | .tooDeep => 0

/-- The words of a reason. -/
def words : Trouble → String
  | .missing => "No such file or directory"
  | .exists => "File exists"
  | .notDirectory => "Not a directory"
  | .isDirectory => "Is a directory"
  | .nameTooLong => "File name too long"
  | .nulCharacter => "embedded null character"
  | .tooDeep => "maximum recursion depth exceeded"

/-- The kind of failure that a reason is. -/
def kind : Trouble → ErrorKind
  | .missing => .fileMissing
  | .exists => .fileExists
  | .notDirectory => .notDirectory
  | .isDirectory => .isDirectory
  | .nameTooLong => .system
  | .nulCharacter => .value
  | .tooDeep => .recursion

/-- Whether the system refuses for this reason. -/
def isSystem (trouble : Trouble) : Bool :=
  trouble.kind.isA .system

end Trouble

/-- A failed operation: the reason and the path that it was given. -/
structure FileError where
  trouble : Trouble
  path : String
deriving DecidableEq, Repr

namespace FileError

/-- The words of a failed operation. -/
def message (error : FileError) : String :=
  "[Errno " ++ Nat.repr error.trouble.number ++ "] " ++ error.trouble.words ++ ": " ++
    Text.quoted error.path

/-- The fault of a failed operation. -/
def toFault (error : FileError) : Fault :=
  .refused error.trouble.kind

end FileError

/-! ## Places -/

/-- The greatest length of a name in bytes. -/
def nameLimit : Nat := 255

/-- The greatest length of a path in bytes. -/
def pathLimit : Nat := 4095

/-- The place at which names end that are followed from a place. -/
def follow (tree : Tree) : List String → List String → Except Trouble (List String)
  | place, [] => .ok place
  | place, name :: rest =>
    match tree.node? place with
    | none => .error .missing
    | some (.file _) => .error .notDirectory
    | some .directory =>
      if nameLimit < name.utf8ByteSize then .error .nameTooLong
      else if name = "" ∨ name = "." then follow tree place rest
      else if name = ".." then follow tree place.dropLast rest
      else follow tree (place ++ [name]) rest

/-- The place that a path means in a directory. -/
def locate (tree : Tree) (directory : List String) (path : String) :
    Except Trouble (List String) :=
  if path.toList.contains '\x00' then .error .nulCharacter
  else if path = "" then .error .missing
  else if pathLimit < path.utf8ByteSize then .error .nameTooLong
  else follow tree (if isAbsolute path then [] else directory) (names path)

/-- What stands at the end of a path; nothing does if the path cannot be followed. -/
def find? (tree : Tree) (directory : List String) (path : String) : Option Node :=
  match locate tree directory path with
  | .ok place => tree.node? place
  | .error _ => none

/-- Whether a path leads to a directory. -/
def isDirectory (tree : Tree) (directory : List String) (path : String) : Bool :=
  find? tree directory path == some .directory

/-- Whether a path leads to a file. -/
def isFile (tree : Tree) (directory : List String) (path : String) : Bool :=
  match find? tree directory path with
  | some (.file _) => true
  | _ => false

/-! ## Operations -/

/-- An operation on a tree, which keeps its effects when it fails. -/
abbrev Operation := ExceptT FileError (StateM Tree)

/-- A path without the slashes at its end, unless it has nothing else. -/
def withoutSlashes (path : String) : String :=
  if dropSlashes path = "" then path else dropSlashes path

/-- Makes a directory in a directory that exists. -/
def makeDirectory (directory : List String) (path : String) : Operation Unit := do
  let tree ← get
  match locate tree directory (withoutSlashes path) with
  | .error trouble => throw ⟨trouble, path⟩
  | .ok place =>
    match tree.node? place with
    | some _ => throw ⟨.exists, path⟩
    | none => set (tree.put place .directory)

/-- The parent and the last name of a path, where slashes at the end do not count. -/
def parentAndName (path : String) : String × String :=
  let (parent, name) := splitLast path
  if name = "" then splitLast parent else (parent, name)

/-- Makes a directory and those above it that are missing; a directory that exists is fine.  The
first argument bounds the count of directories that are made above one another. -/
def makeDirectoriesWithin (directory : List String) : Nat → String → Operation Unit
  | 0, path => throw ⟨.tooDeep, path⟩
  | bound + 1, path => do
    let (parent, name) := parentAndName path
    let above := parent ≠ "" ∧ name ≠ "" ∧ (find? (← get) directory parent).isNone
    if above then
      tryCatch (makeDirectoriesWithin directory bound parent) fun error =>
        if error.trouble = .exists then pure () else throw error
    if above ∧ name = "." then pure ()
    else
      tryCatch (makeDirectory directory path) fun error => do
        if isDirectory (← get) directory path then pure () else throw error

/-- The count of directories that are made above one another where nothing else is said. -/
def nestingLimit : Nat := 985

/-- Makes a directory and those above it that are missing, where there is room for so many of them
inside one another. -/
def makeDirectories (directory : List String) (path : String) (nesting : Nat := nestingLimit) :
    Operation Unit :=
  makeDirectoriesWithin directory nesting path

/-- Writes a file: the new content depends on the old one, if there is a file. -/
def writeFile (directory : List String) (path : String) (content : Option String → String) :
    Operation Unit := do
  let tree ← get
  let slashAtEnd := path.toList.getLast? == some '/'
  match locate tree directory (withoutSlashes path) with
  | .error trouble => throw ⟨trouble, path⟩
  | .ok place =>
    match tree.node? place with
    | some .directory => throw ⟨.isDirectory, path⟩
    | some (.file old) =>
      if slashAtEnd then throw ⟨.notDirectory, path⟩
      else set (tree.put place (.file (content (some old))))
    | none =>
      if slashAtEnd then throw ⟨.isDirectory, path⟩
      else set (tree.put place (.file (content none)))

/-- Adds a text at the end of a file, which is made if it is missing. -/
def appendFile (directory : List String) (path addition : String) : Operation Unit :=
  writeFile directory path fun old => old.getD "" ++ addition

end Files
end TableQuery
