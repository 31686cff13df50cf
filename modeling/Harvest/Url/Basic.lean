import Harvest.Url.Host

/-!
URLs in their normal form.
-/

namespace Harvest

/-- The path of a URL: a text without structure, or segments behind slashes. -/
inductive UrlPath where
  | rootless (text : String)
  | segments (names : List String)
  deriving DecidableEq

/-- A URL whose parts are already escaped. -/
structure Url where
  scheme : String
  username : String
  password : String
  host : Option Host
  port : Option Nat
  path : UrlPath
  query : Option String
  fragment : Option String
  deriving DecidableEq

namespace Url

/-- The usual port of a special scheme that is not for files. -/
def usualPort? (scheme : String) : Option Nat :=
  if scheme = "http" ∨ scheme = "ws" then some 80
  else if scheme = "https" ∨ scheme = "wss" then some 443
  else if scheme = "ftp" then some 21
  else none

/-- Special schemes have a host and treat backslashes as slashes. -/
def isSpecial (scheme : String) : Bool :=
  scheme == "file" || (usualPort? scheme).isSome

/-- The path as it is written. -/
def pathText (url : Url) : String :=
  match url.path with
  | .rootless text => text
  | .segments names => String.join (names.map ("/" ++ ·))

/-- User name and password in front of a host. -/
def userinfoText (url : Url) : String :=
  if url.username = "" ∧ url.password = "" then ""
  else url.username ++ (if url.password = "" then "" else ":" ++ url.password) ++ "@"

/-- The URL without user name and password. -/
def withoutUserinfo (url : Url) : Url :=
  { url with username := "", password := "" }

/-- The authority as it is written. Without one, a path that starts with two slashes keeps clear
of it. -/
def authorityText (url : Url) : String :=
  match url.host with
  | some host =>
    "//" ++ url.userinfoText ++ host.text ++
      (match url.port with
        | some port => ":" ++ toString port
        | none => "")
  | none => if "//".toList.isPrefixOf url.pathText.toList then "/." else ""

/-- A URL as it is written. -/
def text (url : Url) : String :=
  url.scheme ++ ":" ++ url.authorityText ++ url.pathText ++
    (match url.query with
      | some query => "?" ++ query
      | none => "") ++
    (match url.fragment with
      | some fragment => "#" ++ fragment
      | none => "")

/-- A segment that stands for the folder itself. -/
def isSingleDot (segment : String) : Bool :=
  [".", "%2e", "%2E"].contains segment

/-- A segment that stands for the folder around it. -/
def isDoubleDot (segment : String) : Bool :=
  ["..", ".%2e", ".%2E", "%2e.", "%2E.", "%2e%2e", "%2e%2E", "%2E%2e", "%2E%2E"].contains segment

/-- A letter and a mark that name a drive. -/
def isDriveName (letter mark : Char) : Bool :=
  letter.isAlpha && (mark == ':' || mark == '|')

/-- A segment that names a drive. -/
def isDrive (segment : String) : Bool :=
  match segment.toList with
  | [letter, mark] => isDriveName letter mark
  | _ => false

/-- A segment with the name of a drive at its head, alone or before a backslash. -/
def startsWithDrive (segment : String) : Bool :=
  match segment.toList with
  | letter :: mark :: rest =>
    isDriveName letter mark && (rest.isEmpty || rest.head? == some '\\')
  | _ => false

/-- The segments around the last one. Nothing lies around a drive. -/
def outerSegments (names : List String) : List String :=
  if names.getLast?.any startsWithDrive then names else names.dropLast

/-- Segments and one below them. The drive at the top of a file's path is written with a colon. -/
def innerSegments (isFile : Bool) (above : List String) (segment : String) : List String :=
  if isFile && above.isEmpty && isDrive segment then
    [String.ofList (segment.toList.take 1 ++ [':'])]
  else above ++ [segment]

/-- Segments behind others, where dots lead nowhere or outward. A path that ends in dots names a
folder. -/
def descendSegments (isFile : Bool) (above : List String) : List String → List String
  | [] => above
  | [segment] =>
    if isDoubleDot segment then outerSegments above ++ [""]
    else if isSingleDot segment then above ++ [""]
    else innerSegments isFile above segment
  | segment :: rest =>
    if isDoubleDot segment then descendSegments isFile (outerSegments above) rest
    else if isSingleDot segment then descendSegments isFile above rest
    else descendSegments isFile (innerSegments isFile above segment) rest

/-- Segments without empty ones at the top. -/
def dropEmptyTop (names : List String) : List String :=
  match names.dropWhile (· == "") with
  | [] => [""]
  | rest => rest

/-- The path of a scheme where segments stand behind others. The path of a file has no empty
segments at its top. -/
def pathBehind (scheme : String) (above segments : List String) : UrlPath :=
  if scheme = "file" then .segments (dropEmptyTop (descendSegments true above segments))
  else .segments (descendSegments false above segments)

/-- The URL of a relative path. The last segment of the base, its query and its fragment give
way, and a base without segments has no such URL. -/
def join? (base : Url) (relative : String) : Option Url :=
  match base.path with
  | .rootless _ => none
  | .segments names =>
    some { base with
      path := pathBehind base.scheme names.dropLast
        ((relative.toList.splitOn '/').map String.ofList)
      query := none
      fragment := none }

/-- The URL with a slash at the end of its path. A path without structure stays so: a slash at its
head is escaped. -/
def withTrailingSlash (url : Url) : Url :=
  match url.path with
  | .rootless text =>
    if text.toList.getLast? = some '/' then url
    else { url with path := .rootless (if text = "" then "%2F" else text ++ "/") }
  | .segments names =>
    if names.getLast? = some "" then url
    else { url with path := pathBehind url.scheme [] (names ++ [""]) }

end Url

end Harvest
