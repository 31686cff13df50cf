import Harvest.Http.Exchange
import Harvest.Json.Write

/-!
Messages on the wire, in version 1.1 of the protocol. One request goes over one connection, so a
response ends with its connection at the latest.
-/

namespace Harvest.Http

/-- The end of a line. -/
def lineEnd : String := "\r\n"

/-- Host and port as a header names them. -/
def hostHeader (url : Url) : String :=
  (match url.host with
    | some host => host.text
    | none => "") ++
  (match url.port with
    | some port => ":" ++ toString port
    | none => "")

/-- What a request asks of its host. -/
def requestTarget (url : Url) : String :=
  url.pathText ++
    (match url.query with
      | some query => "?" ++ query
      | none => "")

/-- The headers of a request with a body. -/
def requestHeaders (request : Request) (body : String) : List (String × String) :=
  [("host", hostHeader request.url), ("user-agent", request.userAgent), ("accept", "*/*"),
    ("connection", "close")] ++
    (request.login.map fun login => ("authorization", login.header)).toList ++
    (request.session.map fun session => ("x-session", session)).toList ++
    (if request.body.isSome then
      [("content-type", "application/json"), ("content-length", toString body.utf8ByteSize)]
    else [])

/-- A request as text. -/
def Request.toText (request : Request) : String :=
  let body := (request.body.map Json.toText).getD ""
  let headers := (requestHeaders request body).map fun header =>
    header.1 ++ ": " ++ header.2 ++ lineEnd
  request.method.name ++ " " ++ requestTarget request.url ++ " HTTP/1.1" ++ lineEnd ++
    String.join headers ++ lineEnd ++ body

/-- Bytes before and after the first empty line. -/
def splitHead? : List UInt8 → Option (List UInt8 × List UInt8)
  | 13 :: 10 :: 13 :: 10 :: rest => some ([], rest)
  | byte :: rest => (splitHead? rest).map fun parts => (byte :: parts.1, parts.2)
  | [] => none

/-- Bytes before and after the first line end. -/
def splitLine? : List UInt8 → Option (List UInt8 × List UInt8)
  | 13 :: 10 :: rest => some ([], rest)
  | byte :: rest => (splitLine? rest).map fun parts => (byte :: parts.1, parts.2)
  | [] => none

/-- Bytes as characters of the same numbers. -/
def charactersOf (bytes : List UInt8) : List Char :=
  bytes.map fun byte => Char.ofNat byte.toNat

/-- The lines of a head. -/
def headLines (head : List UInt8) : List (List Char) :=
  ((charactersOf head).filter (· != '\r')).splitOn '\n'

/-- A header has a name without case and a value without blanks around it. -/
def readHeader (line : List Char) : String × List Char :=
  (String.ofList ((line.takeWhile (· != ':')).map Char.toLower),
    (((line.dropWhile (· != ':')).drop 1).dropWhile (· == ' ')).reverse.dropWhile (· == ' ')
      |>.reverse)

/-- The value of digits in a base. -/
def readSize? (base : Nat) (digits : List Char) : Option Nat := do
  guard (!digits.isEmpty)
  Digits.read? base digits

/-- The status in the first line of a response. -/
def readStatus? (line : List Char) : Option Nat :=
  readSize? 10 (((line.dropWhile (· != ' ')).drop 1).takeWhile (· != ' '))

/-- Chunks up to the empty one; each has its size in front, and uses up bytes. -/
def readChunks? (fuel : Nat) (bytes : List UInt8) : Option (List UInt8) :=
  match fuel with
  | 0 => none
  | fuel + 1 => do
    let (line, rest) ← splitLine? bytes
    let size ← readSize? 16 ((charactersOf line).takeWhile fun character =>
      character != ';' && character != ' ')
    if size = 0 then return []
    else
      guard (size ≤ rest.length)
      return rest.take size ++ (← readChunks? fuel (rest.drop (size + 2)))

/-- The body of a response by its headers. -/
def readBody? (headers : List (String × List Char)) (bytes : List UInt8) : Option (List UInt8) :=
  if headers.lookup "transfer-encoding" = some "chunked".toList then
    readChunks? (bytes.length + 1) bytes
  else
    match headers.lookup "content-length" with
    | none => some bytes
    | some digits => do
      let size ← readSize? 10 digits
      guard (size ≤ bytes.length)
      return bytes.take size

/-- The response that all bytes of a connection hold. -/
def Response.ofBytes? (bytes : List UInt8) : Option Response := do
  let (head, rest) ← splitHead? bytes
  let lines := headLines head
  let status ← readStatus? (← lines.head?)
  let body ← readBody? ((lines.drop 1).map readHeader) rest
  return ⟨status, .ofBytes ⟨body.toArray⟩⟩

end Harvest.Http
