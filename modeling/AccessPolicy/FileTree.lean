/-!
# Looking up files

A tree of directories and files, and the walk from a directory along a path.  A
path whose first character is a slash begins at the root, any other begins at
the working directory.  Empty parts and single dots stay where they are, two
dots go up, and the root lies above itself.
-/

namespace AccessPolicy

/-- A file with its bytes, or a directory with its entries. -/
inductive FileTree where
  | file (bytes : ByteArray)
  | directory (entries : List (String × FileTree))

inductive ReadFailure where
  | nulInName
  | noSuchFile
  | notADirectory
  | isADirectory
  | nameTooLong
  | invalidUtf8
  deriving DecidableEq

def ReadFailure.message : ReadFailure → String
  | nulInName => "file name contained an unexpected NUL byte"
  | noSuchFile => "No such file or directory (os error 2)"
  | notADirectory => "Not a directory (os error 20)"
  | isADirectory => "Is a directory (os error 21)"
  | nameTooLong => "File name too long (os error 36)"
  | invalidUtf8 => "stream did not contain valid UTF-8"

namespace FileTree

/-- The greatest number of bytes in the name of a directory entry. -/
def maxNameSize : Nat := 255

/-- The names between the slashes of a path. -/
def pathParts (path : String) : List String :=
  let (part, parts) := path.toList.foldr
    (fun c (part, parts) =>
      if c = '/' then ([], String.ofList part :: parts) else (c :: part, parts))
    (([] : List Char), ([] : List String))
  String.ofList part :: parts

/-- Walk along the parts of a path from a node whose ancestors are
given, nearest first. -/
def walk (node : FileTree) (ancestors : List FileTree) :
    List String → Except ReadFailure FileTree
  | [] => .ok node
  | part :: rest =>
    match node with
    | file _ => .error .notADirectory
    | directory entries =>
      if part = "" || part = "." then walk node ancestors rest
      else if part = ".." then
        match ancestors with
        | [] => walk node [] rest
        | parent :: ancestors => walk parent ancestors rest
      else if maxNameSize < part.utf8ByteSize then .error .nameTooLong
      else
        match entries.lookup part with
        | none => .error .noSuchFile
        | some child => walk child (node :: ancestors) rest

end FileTree

/-- A file system as a process sees it: the directories from the root to the
working directory, the working directory first. -/
structure FileSystem where
  workingDirectory : FileTree
  ancestors : List FileTree := []

namespace FileSystem

/-- The greatest number of bytes in a path. -/
def maxPathSize : Nat := 4095

def root (files : FileSystem) : FileTree :=
  files.ancestors.getLastD files.workingDirectory

def read (files : FileSystem) (path : String) :
    Except ReadFailure ByteArray := do
  if path.toList.contains '\x00' then throw .nulInName
  if path.isEmpty then throw .noSuchFile
  if maxPathSize < path.utf8ByteSize then throw .nameTooLong
  let parts := FileTree.pathParts path
  let node ←
    if parts.head? = some "" then files.root.walk [] parts
    else files.workingDirectory.walk files.ancestors parts
  match node with
  | .file bytes => pure bytes
  | .directory _ => throw .isADirectory

end FileSystem

end AccessPolicy
