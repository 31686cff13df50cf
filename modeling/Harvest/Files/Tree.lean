import Harvest.Files.Path
import Harvest.Program
import Harvest.Text.Contents

/-!
Trees of folders and files. A place is the run of names that leads to it, innermost name first,
so a step outward drops the head. Paths are walked name by name, and each step needs a folder to
start from.
-/

namespace Harvest

/-- A file has contents and permission bits. -/
structure StoredFile where
  contents : Contents
  mode : Nat

/-- What stands at a place. -/
inductive Entry where
  | file (file : StoredFile)
  | folder

/-- Why a path does not lead to what is wanted. -/
inductive FileFault where
  | missing
  | notFolder
  | isFolder
  | exists
  | tooLong
  | zeroInside
  deriving DecidableEq

/-- The wording of a file fault. -/
def FileFault.message : FileFault → String
  | .missing => "No such file or directory"
  | .notFolder => "Not a directory"
  | .isFolder => "Is a directory"
  | .exists => "File exists"
  | .tooLong => "File name too long"
  | .zeroInside => "file name contained an unexpected NUL byte"

/-- A place in a tree, from the innermost name outward. -/
abbrev Place := List String

/-- The entries of a tree, the newest first, and the place where relative paths start. -/
structure FileTree where
  entries : List (Place × Entry)
  workingPlace : Place

namespace FileTree

/-- A tree that holds nothing but its working folder. -/
def empty : FileTree := ⟨[(["work"], .folder)], ["work"]⟩

/-- What stands at a place; the root is always a folder. -/
def entryAt (tree : FileTree) (place : Place) : Option Entry :=
  if place = [] then some .folder else tree.entries.lookup place

/-- The tree with a new entry at a place. -/
def setEntry (tree : FileTree) (place : Place) (entry : Entry) : FileTree :=
  { tree with entries := (place, entry) :: tree.entries }

/-- The longest name of a file, in bytes. -/
def longestName : Nat := 255

/-- The longest path, in bytes. -/
def longestPath : Nat := 4095

/-- One step from a folder. -/
def step (tree : FileTree) (place : Place) (name : String) : Except FileFault Place :=
  match tree.entryAt place with
  | none => .error .missing
  | some (.file _) => .error .notFolder
  | some .folder =>
    if name = "" ∨ name = "." then .ok place
    else if name = ".." then .ok place.tail
    else if longestName < name.utf8ByteSize then .error .tooLong
    else .ok (name :: place)

/-- The place that a run of names leads to. -/
def walk (tree : FileTree) (place : Place) : List String → Except FileFault Place
  | [] => .ok place
  | name :: rest => do walk tree (← tree.step place name) rest

/-- Where a path starts and the names that it walks. -/
def route (tree : FileTree) (path : String) : Except FileFault (Place × List String) :=
  if path.toList.contains '\x00' then .error .zeroInside
  else if path = "" then .error .missing
  else if longestPath < path.utf8ByteSize then .error .tooLong
  else .ok (if Path.isAbsolute path.toList then [] else tree.workingPlace, Path.pieces path)

/-- The place of a path. -/
def locate (tree : FileTree) (path : String) : Except FileFault Place := do
  let (start, names) ← tree.route path
  tree.walk start names

/-- The file at a path. -/
def fileAt (tree : FileTree) (path : String) : Except FileFault StoredFile := do
  match tree.entryAt (← tree.locate path) with
  | none => .error .missing
  | some .folder => .error .isFolder
  | some (.file file) => .ok file

/-- Whether a path leads to a file. -/
def isFile (tree : FileTree) (path : String) : Bool :=
  match tree.fileAt path with
  | .ok _ => true
  | .error _ => false

/-- The text of the file at a path. -/
def readText (tree : FileTree) (path : String) : Except ReadFault String :=
  match tree.fileAt path with
  | .error .missing => .error (.missing FileFault.missing.message)
  | .error fault => .error (.unreadable fault.message)
  | .ok file =>
    match file.contents with
    | .text characters => .ok characters
    | .bytes raw => .error (.notText raw "stream did not contain valid UTF-8")

/-- Missing folders along a run of names are made. A fault leaves those made before it. -/
def makeFolders (tree : FileTree) (place : Place) : List String → FileTree × Except FileFault Unit
  | [] => (tree, .ok ())
  | name :: rest =>
    match tree.step place name with
    | .error fault => (tree, .error fault)
    | .ok next =>
      match tree.entryAt next with
      | none => (tree.setEntry next .folder).makeFolders next rest
      | some (.file _) => (tree, .error .exists)
      | some .folder => tree.makeFolders next rest

/-- A folder at a path, with the folders around it. -/
def makeFolder (tree : FileTree) (path : String) : FileTree × Except FileFault Unit :=
  match tree.route path with
  | .error fault => (tree, .error fault)
  | .ok (start, names) => tree.makeFolders start names

/-- A file at a path in a folder that exists takes new contents and permission bits. -/
def putFile (tree : FileTree) (path : String) (file : StoredFile) :
    FileTree × Except FileFault Unit :=
  match tree.locate path with
  | .error fault => (tree, .error fault)
  | .ok place =>
    match tree.entryAt place with
    | some .folder => (tree, .error .isFolder)
    | _ => (tree.setEntry place (.file file), .ok ())

/-- A file at a path takes new contents and permission bits; missing folders around it are made. -/
def storeFile (tree : FileTree) (path : String) (file : StoredFile) :
    FileTree × Except FileFault Unit :=
  match Path.parent? path.toList with
  | none | some [] => tree.putFile path file
  | some parent =>
    match tree.makeFolder (String.ofList parent) with
    | (tree, .error fault) => (tree, .error fault)
    | (tree, .ok ()) => tree.putFile path file

/-- The permission bits of a file that only its owner reads and writes. -/
def privateMode : Nat := 0o600

/-- The text of a file that only its owner may read. -/
def writePrivate (tree : FileTree) (path contents : String) : FileTree × Except String Unit :=
  let (tree, outcome) := tree.storeFile path ⟨.text contents, privateMode⟩
  (tree, outcome.mapError FileFault.message)

end FileTree

end Harvest
