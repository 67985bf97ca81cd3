import ChainExplorer.Bytes.Base64
import ChainExplorer.Http.Settings
import ChainExplorer.Http.Status
import ChainExplorer.Rpc.Message
import ChainExplorer.Words

/-!
# Exchanges over HTTP

A request is posted as JSON on a connection of its own. The node answers errors with a status that
says so and a body like any other, so a reply is read from the body and the status does not matter,
except in the report of a body that is no reply. The body ends where its length or its last chunk
says, else with the stream.
-/

namespace ChainExplorer.Http

open ChainExplorer.Rpc ChainExplorer.Text

/-! ## Requests -/

/-- The authorization that goes with every request. -/
def Settings.authorization? (s : Settings) : Option String :=
  s.credentials.map fun (user, password) =>
    "Basic " ++ String.ofList (Base64.encode (Utf8.encode (user ++ ":" ++ password).toList))

/-- The service that a server is reached as. -/
def Url.serviceNumber (url : Url) : Nat :=
  url.service.getD (if url.scheme = "https" then 443 else 80)

/-- The name of a server in a request. -/
def Url.serverName (url : Url) : String :=
  let host := (url.host.map Host.text).getD ""
  match url.service with
  | some service => host ++ ":" ++ decimal service
  | none => host

/-- What a request is for: the path and the query, without a fragment. -/
def Url.requestTarget (url : Url) : String :=
  let target := url.target.toList.takeWhile (· ≠ '#')
  match target with
  | '/' :: _ => String.ofList target
  | _ => String.ofList ('/' :: target)

/-- The headers of a request with a body of such a length. -/
def headers (s : Settings) (length : Nat) : List (String × String) :=
  [("host", s.url.serverName), ("content-type", "application/json"), ("accept", "*/*")]
    ++ (s.authorization?.map fun value => ("authorization", value)).toList
    ++ [("content-length", decimal length), ("connection", "close")]

/-- A line and its end. -/
def line (text : String) : String := text ++ "\r\n"

/-- The bytes of a request. -/
def requestBytes (s : Settings) (request : Request) : List UInt8 :=
  let body := Utf8.encode request.toJson.render
  let head := line ("POST " ++ s.url.requestTarget ++ " HTTP/1.1")
    ++ String.join ((headers s body.length).map fun (name, value) => line (name ++ ": " ++ value))
    ++ line ""
  Utf8.encode head.toList ++ body

/-! ## Responses -/

/-- A response. -/
structure Response where
  status : Nat
  body : List UInt8
  deriving DecidableEq, Repr

/-- The bytes around the first empty line: the head with the ends of its lines, and what follows. -/
def splitHead? : List UInt8 → Option (List UInt8 × List UInt8)
  | 13 :: 10 :: 13 :: 10 :: rest => some ([13, 10], rest)
  | b :: bs => (splitHead? bs).map fun (head, rest) => (b :: head, rest)
  | [] => none

/-- The texts of the lines of a head. -/
def headLines (head : List UInt8) : List String :=
  ((String.ofList (head.map fun b => Char.ofNat b.toNat)).splitOn "\r\n").filter (!·.isEmpty)

/-- The code of a status line. -/
def status? (text : String) : Option Nat :=
  match words text with
  | version :: code :: _ =>
    if version.startsWith "HTTP/1." then numeral? 1000 code.toList else none
  | _ => none
where
  words (text : String) : List String := (text.splitOn " ").filter (!·.isEmpty)

/-- Drops spaces and tabs at both ends. -/
def trim (cs : List Char) : List Char :=
  let blank (c : Char) : Bool := c == ' ' || c == '\t'
  ((cs.dropWhile blank).reverse.dropWhile blank).reverse

/-- The value of a header, whose name is in lower case. -/
def header? (name : String) (lines : List String) : Option String :=
  lines.findSome? fun text =>
    let cs := text.toList
    if (cs.takeWhile (· ≠ ':')).map Char.toLower = name.toList then
      some (String.ofList (trim ((cs.dropWhile (· ≠ ':')).drop 1)))
    else none

/-- How far a response has come. -/
inductive Progress (α : Type) where
  | more
  | done (value : α)
  | broken
  deriving Repr

/-- The bytes before the first line end, and those behind it. -/
def splitLine? : List UInt8 → Option (List UInt8 × List UInt8)
  | 13 :: 10 :: rest => some ([], rest)
  | b :: bs => (splitLine? bs).map fun (front, rest) => (b :: front, rest)
  | [] => none

/-- The size of a chunk, which an extension may follow. -/
def chunkSize? (text : List UInt8) : Option Nat :=
  let digits := (text.map fun b => Char.ofNat b.toNat).takeWhile Hex.isDigit
  if digits.isEmpty then none else some (Hex.value digits)

/-- The body in chunks; the fuel bounds how many there are. -/
def dechunk : Nat → List UInt8 → List UInt8 → Progress (List UInt8)
  | 0, _, _ => .broken
  | fuel + 1, acc, bytes =>
    match splitLine? bytes with
    | none => .more
    | some (text, rest) =>
      match chunkSize? text with
      | none => .broken
      | some 0 => .done acc
      | some size =>
        if rest.length < size + 2 then .more
        else dechunk fuel (acc ++ rest.take size) (rest.drop (size + 2))

/-- The body behind a head, where the stream may have ended. -/
def bodyOf (ended : Bool) (lines : List String) (rest : List UInt8) : Progress (List UInt8) :=
  if header? "transfer-encoding" lines = some "chunked" then dechunk (rest.length + 1) [] rest
  else match (header? "content-length" lines).map fun v => numeral? wordBound v.toList with
    | some (some length) => if rest.length < length then .more else .done (rest.take length)
    | some none => .broken
    | none => if ended then .done rest else .more

/-- The response at the front of a stream that may have ended. -/
def Response.ofBytes (ended : Bool) (bytes : List UInt8) : Progress Response :=
  match splitHead? bytes with
  | none => if ended then .broken else .more
  | some (head, rest) =>
    match headLines head with
    | [] => .broken
    | first :: lines =>
      match status? first with
      | none => .broken
      | some status =>
        match bodyOf ended lines rest with
        | .done body => .done ⟨status, body⟩
        | .more => if ended then .broken else .more
        | .broken => .broken

/-- The reply in a response. -/
def Response.reply (response : Response) : Except TransportError Reply :=
  match (Utf8.decode? response.body).bind Reply.ofText? with
  | some reply => .ok reply
  | none => .error (.protocol (.badBody (statusText response.status)))

end ChainExplorer.Http
