import FeatureCard.Files.Path
import FeatureCard.Files.Storage

/-!
# A disk in memory

Files with their places. A directory exists where something lies below it, and where it was made.
Paths are followed part by part: every part but the last has to be a directory, an idle part stays
where it is, and two dots lead up.
-/

namespace FeatureCard.Files

/-- The names that lead from the root to a file or directory. -/
abbrev Place := List String

structure Disk where
  files : List (Place × ByteArray) := []
  /-- Directories that exist even if nothing lies below them. -/
  directories : List Place := []
  workingDirectory : Place := []

namespace Disk

def longestName : Nat := 255

def pathLimit : Nat := 4096

def file? (d : Disk) (p : Place) : Option ByteArray := d.files.lookup p

def isDirectory (d : Disk) (p : Place) : Bool :=
  (d.workingDirectory :: d.directories).any p.isPrefixOf ||
    d.files.any fun f => p.isPrefixOf f.1 && p != f.1

def has (d : Disk) (p : Place) : Bool := d.isDirectory p || (d.file? p).isSome

def follow (d : Disk) : Place → List String → Except FileFault Place
  | p, [] => .ok p
  | p, name :: names =>
    if !d.isDirectory p then .error .notDirectory
    else if isIdle name then d.follow p names
    else if name = ".." then d.follow p.dropLast names
    else if longestName < name.utf8ByteSize then .error .nameTooLong
    else if d.has (p ++ [name]) then d.follow (p ++ [name]) names
    else .error .missing

/-- A path is not empty, not too long, and without the character that ends names. -/
def checkPath (path : String) : Except FileFault Unit :=
  if path.toList.contains '\x00' then .error .zeroInName
  else if path = "" then .error .missing
  else if pathLimit ≤ path.utf8ByteSize then .error .nameTooLong
  else .ok ()

def start (d : Disk) (path : String) : Place :=
  if isAbsolute path then [] else d.workingDirectory

def read (d : Disk) (path : String) : Except FileFault ByteArray := do
  checkPath path
  let p ← d.follow (d.start path) (parts path)
  match d.file? p with
  | some bytes => return bytes
  | none => throw .isDirectory

def put (d : Disk) (p : Place) (bytes : ByteArray) : Disk :=
  { d with files := (p, bytes) :: d.files.filter fun f => f.1 != p }

/-- Writes a file. A path that ends with a slash names a directory. -/
def write (d : Disk) (path : String) (bytes : ByteArray) : Except FileFault Disk := do
  checkPath path
  let names := (parts path).reverse.dropWhile (· = "")
  match names with
  | [] => throw .isDirectory
  | name :: above =>
    let p ← d.follow (d.start path) above.reverse
    if !d.isDirectory p then throw .notDirectory
    if path.toList.getLast? = some '/' || isIdle name || name = ".." then throw .isDirectory
    if longestName < name.utf8ByteSize then throw .nameTooLong
    if d.isDirectory (p ++ [name]) then throw .isDirectory
    return d.put (p ++ [name]) bytes

end Disk

instance : Storage (StateM Disk) where
  read path := do return (← get).read path
  write path bytes := do
    match (← get).write path bytes with
    | .error f => return .error f
    | .ok d => set d; return .ok ()

end FeatureCard.Files
