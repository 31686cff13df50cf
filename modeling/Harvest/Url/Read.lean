import Harvest.Url.Basic

/-!
Reading absolute URLs. Blanks and control characters around a text and line breaks inside it are
ignored, and every part is brought into its normal form.
-/

namespace Harvest.Url

/-- A character that is ignored at either end of a text. -/
def isOuterBlank (character : Char) : Bool :=
  character.toNat ≤ 0x20

/-- A text without what is ignored in it. -/
def withoutBlanks (characters : List Char) : List Char :=
  let trimmed := ((characters.dropWhile isOuterBlank).reverse.dropWhile isOuterBlank).reverse
  trimmed.filter fun character => character != '\t' && character != '\n' && character != '\r'

/-- A character of a scheme behind its first letter. -/
def isSchemeCharacter (character : Char) : Bool :=
  character.isAlphanum || character == '+' || character == '-' || character == '.'

/-- The scheme of a text in lower case, and what follows its colon. -/
def readScheme? (characters : List Char) : Option (String × List Char) :=
  match characters with
  | first :: _ =>
    match characters.dropWhile isSchemeCharacter with
    | ':' :: rest =>
      if first.isAlpha then
        some (String.ofList ((characters.takeWhile isSchemeCharacter).map Char.toLower), rest)
      else none
    | _ => none
  | [] => none

/-- A slash; for special schemes a backslash is one too. -/
def isSlash (special : Bool) (character : Char) : Bool :=
  character == '/' || (special && character == '\\')

/-- The character after which neither authority nor path goes on. -/
def isTailMark (character : Char) : Bool :=
  character == '?' || character == '#'

/-- The pieces between slashes. -/
def splitSlashes (special : Bool) (characters : List Char) : List (List Char) :=
  characters.splitOnP (isSlash special)

/-- The segments of a path behind its first slash, escaped. -/
def readSegments (special : Bool) (characters : List Char) : List String :=
  (splitSlashes special characters).map fun piece =>
    String.ofList (Percent.encode Percent.isPlainInPath piece)

/-- Path, query and fragment of a text. -/
structure Tail where
  path : List Char
  query : Option (List Char)
  fragment : Option (List Char)

/-- What follows a mark, if the text goes on with it. -/
def behind? (mark : Char) (characters : List Char) : Option (List Char) :=
  match characters with
  | first :: rest => if first = mark then some rest else none
  | [] => none

/-- The parts of what follows an authority. -/
def Tail.of (characters : List Char) : Tail :=
  let beforeFragment := characters.takeWhile (· != '#')
  { path := beforeFragment.takeWhile (· != '?')
    query := behind? '?' (beforeFragment.dropWhile (· != '?'))
    fragment := behind? '#' (characters.dropWhile (· != '#')) }

/-- A URL with the query and the fragment of a text. -/
def withTail (url : Url) (tail : Tail) : Url :=
  let isPlain :=
    if isSpecial url.scheme then Percent.isPlainInSpecialQuery else Percent.isPlainInQuery
  { url with
    query := tail.query.map fun query => String.ofList (Percent.encode isPlain query)
    fragment := tail.fragment.map fun fragment =>
      String.ofList (Percent.encode Percent.isPlainInFragment fragment) }

/-- The segments behind an authority. Special schemes always have one. -/
def readPathStart (special : Bool) (path : List Char) : List String :=
  match path with
  | [] => if special then [""] else []
  | first :: rest =>
    if isSlash special first then readSegments special rest else readSegments special path

/-- A text before and after its last at sign. -/
def splitAtLastAt (characters : List Char) : Option (List Char × List Char) :=
  match characters.reverse.dropWhile (· != '@') with
  | [] => none
  | _ :: front =>
    some (front.reverse, (characters.reverse.takeWhile (· != '@')).reverse)

/-- User name and password, escaped. -/
def readUserinfo (characters : List Char) : String × String :=
  let escaped (part : List Char) := String.ofList (Percent.encode Percent.isPlainInUserinfo part)
  (escaped (characters.takeWhile (· != ':')),
    escaped ((characters.dropWhile (· != ':')).drop 1))

/-- The host at the head of a text; a colon in brackets belongs to it. -/
def takeHost (inside : Bool) : List Char → List Char
  | [] => []
  | character :: rest =>
    if character = ':' ∧ !inside then []
    else if character = '[' then character :: takeHost true rest
    else if character = ']' then character :: takeHost false rest
    else character :: takeHost inside rest

/-- A port below 65536; the usual port of the scheme is left out. -/
def readPort? (scheme : String) (digits : List Char) : Option (Option Nat) := do
  guard (digits.all Char.isDigit)
  let port := Digits.decimal digits
  guard (port < 65536)
  return if digits.isEmpty ∨ usualPort? scheme = some port then none else some port

/-- The host of an authority by the rules of the scheme. -/
def readHost? (scheme : String) (characters : List Char) : Option Host :=
  if isSpecial scheme then Host.readSpecial? characters else Host.readOther? characters

/-- The URL of a scheme with a text that starts with its authority. -/
def readAuthority? (scheme : String) (characters : List Char) : Option Url := do
  let special := isSpecial scheme
  let ends (character : Char) : Bool := isSlash special character || isTailMark character
  let authority := characters.takeWhile (!ends ·)
  let rest := characters.dropWhile (!ends ·)
  guard (authority = ['@'] → rest.isEmpty)
  let (userinfo, address) := (splitAtLastAt authority).getD ([], authority)
  let (username, password) := readUserinfo userinfo
  let name := takeHost false address
  let host ← readHost? scheme name
  let behind := address.drop name.length
  guard (host = .name "" → behind.isEmpty ∧ !special ∧ username = "" ∧ password = "")
  let port ← readPort? scheme ((behind.drop 1).takeWhile (· != '\\'))
  let tail := Tail.of ((behind.drop 1).dropWhile (· != '\\') ++ rest)
  let path := pathBehind scheme [] (readPathStart special tail.path)
  return withTail ⟨scheme, username, password, some host, port, path, none, none⟩ tail

/-- The URL of a file on a host. A path that starts at a drive belongs to no host. -/
def readFilePath (host : Host) (characters : List Char) : Url :=
  let tail := Tail.of characters
  let segments := readPathStart true tail.path
  let host := if (descendSegments true [] segments).head?.any isDrive then .name "" else host
  withTail ⟨"file", "", "", some host, none, pathBehind "file" [] segments, none, none⟩ tail

/-- The URL of a file. A host of its own is rare: `localhost` is none, and neither is a drive. -/
def readFile? (characters : List Char) : Option Url := do
  let isMark (character : Char) : Bool := isSlash true character || isTailMark character
  match characters with
  | first :: second :: rest =>
    if isSlash true first && isSlash true second then
      let name := rest.takeWhile (!isMark ·)
      if name.isEmpty ∨ isDrive (String.ofList name) then return readFilePath (.name "") rest
      else
        let host ← Host.readSpecial? name
        return readFilePath (if host = .name "localhost" then .name "" else host)
          (rest.dropWhile (!isMark ·))
    else return readFilePath (.name "") characters
  | _ => return readFilePath (.name "") characters

/-- The URL of a scheme that is not special. -/
def readOther? (scheme : String) (characters : List Char) : Option Url :=
  match characters with
  | '/' :: '/' :: rest => readAuthority? scheme rest
  | _ =>
    let tail := Tail.of characters
    let path := match tail.path with
      | '/' :: rest => pathBehind scheme [] (readSegments false rest)
      | path => .rootless (String.ofList (Percent.encode Percent.isPrintable path))
    some (withTail ⟨scheme, "", "", none, none, path, none, none⟩ tail)

/-- The absolute URL that a text holds. -/
def ofText? (source : String) : Option Url := do
  let (scheme, rest) ← readScheme? (withoutBlanks source.toList)
  if scheme = "file" then readFile? rest
  else if isSpecial scheme then readAuthority? scheme (rest.dropWhile (isSlash true))
  else readOther? scheme rest

end Harvest.Url
