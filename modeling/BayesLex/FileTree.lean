import BayesLex.Input

/-!
# Files and their paths

A tree of files below a working directory.  A path leads from one directory
to the next, to a file at most at its end; a path that leaves the working
directory meets nothing but directories there.  Paths and the names in them
are limited in length.
-/

namespace BayesLex

namespace Path

/-- The steps of a path. -/
def steps (path : String) : List String :=
  (path.toList.splitOn '/').map String.ofList

/-- Whether a step leads nowhere. -/
def isIdle (step : String) : Bool :=
  step.isEmpty || step = "."

/-- The steps that lead somewhere. -/
def names (path : String) : List String :=
  (steps path).filter (fun step => !isIdle step)

/-- The greatest number of bytes of a name. -/
def maxNameSize : Nat := 255

/-- The greatest number of bytes of a path. -/
def maxSize : Nat := 4095

/-- Whether a path stands for the standard input. -/
def isStandardInput (path : String) : Bool :=
  match steps path with
  | first :: rest => first = "-" && rest.all isIdle
  | [] => false

end Path

/-- Files and directories by the names that lead to them. -/
structure FileTree where
  files : List (List String × ByteArray)
  directories : List (List String)

/-- Where a path leads. -/
inductive Destination where
  | file (content : ByteArray)
  | directory (names : List String)
  /-- A directory outside of the tree. -/
  | beyond

namespace FileTree

/-- Whether there is a directory of some names. -/
def isDirectory (tree : FileTree) (names : List String) : Bool :=
  tree.directories.any names.isPrefixOf ||
    tree.files.any (fun file => names.isPrefixOf file.1)

/-- Take one step. -/
def step (tree : FileTree) (place : Destination) (step : String) :
    Except ReadFailure Destination :=
  match place with
  | .file _ => .error .notDirectory
  | .beyond =>
      if Path.isIdle step || step = ".." then
        .ok .beyond
      else if Path.maxNameSize < step.utf8ByteSize then
        .error .tooLong
      else
        .error .notFound
  | .directory names =>
      if Path.isIdle step then
        .ok place
      else if step = ".." then
        .ok (if names.isEmpty then .beyond else .directory names.dropLast)
      else if Path.maxNameSize < step.utf8ByteSize then
        .error .tooLong
      else
        let inner := names ++ [step]
        match tree.files.lookup inner with
        | some content => .ok (.file content)
        | none =>
            if tree.isDirectory inner then
              .ok (.directory inner)
            else
              .error .notFound

/-- Follow a path. -/
def follow (tree : FileTree) (path : String) :
    Except ReadFailure Destination :=
  let start :=
    if path.toList.head? = some '/' then Destination.beyond else .directory []
  if path.toList.contains '\x00' then
    .error .nul
  else if Path.maxSize < path.utf8ByteSize then
    .error .tooLong
  else
    (Path.steps path).foldlM tree.step start

/-- The text of the file at a path. -/
def read (tree : FileTree) (path : String) : Except ReadFailure Text :=
  match tree.follow path with
  | .ok (.file content) => Text.decode content
  | .ok _ => .error .isDirectory
  | .error failure => .error failure

end FileTree

end BayesLex
