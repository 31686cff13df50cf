/-!
Paths. A path is a run of components between slashes; empty components and single dots say
nothing, except that a leading dot stands for the current folder.
-/

namespace Harvest.Path

/-- Whether a path starts at the root. -/
def isAbsolute (path : List Char) : Bool :=
  path.head? == some '/'

/-- The root or a leading dot of a path, in front of its components. -/
def front : List Char → List Char
  | '/' :: _ => ['/']
  | ['.'] => ['.']
  | '.' :: '/' :: _ => ['.']
  | _ => []

/-- A reversed path without the separators and single dots at its end. -/
def dropIdle (reversed : List Char) : List Char :=
  match reversed with
  | [] => []
  | '/' :: rest => dropIdle rest
  | ['.'] => []
  | '.' :: '/' :: rest => dropIdle rest
  | other => other

/-- The components of a path behind its front, reversed and without idle ends. -/
def reversedBody (path : List Char) : List Char :=
  dropIdle (path.drop (front path).length).reverse

/-- The last component of a path, if it is not the root or the current folder. -/
def lastComponent? (path : List Char) : Option (List Char) :=
  match reversedBody path with
  | [] => none
  | reversed => some (reversed.takeWhile (· != '/')).reverse

/-- The path without its last component; a root has none. -/
def parent? (path : List Char) : Option (List Char) :=
  match reversedBody path with
  | [] => if front path = ['.'] then some [] else none
  | reversed => some (front path ++ (dropIdle (reversed.dropWhile (· != '/'))).reverse)

/-- The folder that holds what a path names. -/
def folder (path : String) : String :=
  match parent? path.toList with
  | some parent => if parent.isEmpty then "." else String.ofList parent
  | none => "."

/-- What follows the last dot of the last component, unless the dot leads it. -/
def extension? (path : String) : Option String :=
  match lastComponent? path.toList with
  | none => none
  | some name =>
    let reversed := name.reverse
    let suffix := reversed.takeWhile (· != '.')
    let stem := reversed.drop (suffix.length + 1)
    if name = ['.', '.'] ∨ stem.isEmpty then none else some (String.ofList suffix.reverse)

/-- The pieces between the slashes of a path. -/
def pieces (path : String) : List String :=
  (path.toList.splitOn '/').map String.ofList

/-- A relative path behind another. -/
def join (base relative : String) : String :=
  if base.toList.isEmpty ∨ base.toList.getLast? = some '/' then base ++ relative
  else base ++ "/" ++ relative

end Harvest.Path
