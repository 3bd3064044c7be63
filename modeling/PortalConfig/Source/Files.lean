/-!
# Files

What configuration is read from: for every path, the text of the file there or why there is none.
`FileTree` is a directory with everything below it. A whole file system is such a tree, and
`FileTree.read` answers as one does that is seen from a working directory.
-/

namespace PortalConfig

/-- Why a file cannot be read. -/
inductive ReadFailure
  | notFound
  | notDirectory
  | isDirectory
  | nameTooLong
  /-- The path has a character in it that ends names. -/
  | zeroInPath
  | notText
  /-- Any other reason, in the words of the system. -/
  | other (reason : String)
deriving DecidableEq

/-- The outcome of reading each path. -/
abbrev Files := String → Except ReadFailure String

namespace ReadFailure

/-- The reason in words. -/
def reason : ReadFailure → String
  | notFound => "No such file or directory (os error 2)"
  | notDirectory => "Not a directory (os error 20)"
  | isDirectory => "Is a directory (os error 21)"
  | nameTooLong => "File name too long (os error 36)"
  | zeroInPath => "file name contained an unexpected NUL byte"
  | notText => "stream did not contain valid UTF-8"
  | other reason => reason

/-- Whether nothing stands at a path that cannot be read for this reason. -/
def isAbsence : ReadFailure → Bool
  | notFound | notDirectory | nameTooLong | zeroInPath => true
  | isDirectory | notText | other _ => false

/-- How many bytes a path may have. -/
def longestPath : Nat := 4095

/-- How many bytes a step of a path may have. -/
def longestStep : Nat := 255

/-- Why a path leads nowhere, whatever files there are. -/
def ofPath? (path : String) : Option ReadFailure :=
  if path.toList.contains '\x00' then some zeroInPath
  else if path = "" then some notFound
  else if longestPath < path.utf8ByteSize then some nameTooLong
  else none

end ReadFailure

namespace Files

/-- Whether there is something at a path, readable or not. -/
def present (files : Files) (path : String) : Bool :=
  match files path with
  | .error failure => !failure.isAbsence
  | .ok _ => true

end Files

/-- A file, or a directory with its entries by name. -/
inductive FileTree
  | file (bytes : ByteArray)
  | directory (entries : List (String × FileTree))

namespace FileTree

/-- A directory with nothing in it. -/
def empty : FileTree := .directory []

/-- The entries of a directory; a file has none. -/
def entries : FileTree → List (String × FileTree)
  | file _ => []
  | directory entries => entries

/-- Puts a tree in the place of another. An empty directory leaves a directory as it is. -/
def replace : (present node : FileTree) → FileTree
  | directory entries, directory [] => directory entries
  | _, node => node

/-- Puts a tree at a path below a directory. Missing directories on the way are made. -/
def insert (tree : FileTree) (path : List String) (node : FileTree) : FileTree :=
  match path with
  | [] => replace tree node
  | name :: rest =>
    let below := (tree.entries.lookup name).getD empty
    let others := tree.entries.filter fun entry => entry.1 != name
    .directory ((name, insert below rest node) :: others)

/-- Walks along the steps of a path. `above` holds the directories passed on the way from the root,
the nearest first; above the root is the root. -/
def walk (above : List FileTree) (here : FileTree) : List String → Except ReadFailure FileTree
  | [] => .ok here
  | step :: rest =>
    match here with
    | file _ => .error .notDirectory
    | directory entries =>
      if step = "" ∨ step = "." then walk above here rest
      else if step = ".." then
        match above with
        | [] => walk [] here rest
        | parent :: above => walk above parent rest
      else if ReadFailure.longestStep < step.utf8ByteSize then .error .nameTooLong
      else
        match entries.lookup step with
        | some node => walk (here :: above) node rest
        | none => .error .notFound

/-- The steps from the root to a path that is seen from a directory. -/
def stepsFrom (directory : List String) (path : String) : List String :=
  let steps := path.splitOn "/"
  if steps.head? = some "" then steps else directory ++ steps

/-- The tree at a path that is seen from a directory below the root. -/
def find (root : FileTree) (directory : List String) (path : String) :
    Except ReadFailure FileTree :=
  match ReadFailure.ofPath? path with
  | some failure => .error failure
  | none => walk [] root (stepsFrom directory path)

/-- Reads the text of the file at a path that is seen from a directory below the root. -/
def read (root : FileTree) (directory : List String) : Files := fun path =>
  match find root directory path with
  | .error failure => .error failure
  | .ok (.directory _) => .error .isDirectory
  | .ok (.file bytes) =>
    match String.fromUTF8? bytes with
    | some text => .ok text
    | none => .error .notText

end FileTree

end PortalConfig
