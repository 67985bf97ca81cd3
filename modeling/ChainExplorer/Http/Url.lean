import ChainExplorer.Http.Host
import ChainExplorer.Words

/-!
# URLs

The node is reached under a URL. Whether a text is one follows the URL standard: blanks around it
are dropped, tabs and line breaks inside it too, a scheme ends at a colon, and then the schemes part
ways. The schemes of the web need a host; a file may have one; any other scheme has one only behind
two slashes. Paths, queries and fragments never make a URL invalid, so only the scheme, the host and
the service behind it are read.
-/

namespace ChainExplorer.Http

open ChainExplorer.Text

/-- What of a URL decides whether and how a server can be reached. -/
structure Url where
  scheme : String
  host : Option Host
  service : Option Nat
  /-- What follows the host and the service. -/
  target : String
  deriving DecidableEq, Repr

/-- Drops controls and spaces at both ends, and tabs and line breaks everywhere. -/
def clean (cs : List Char) : List Char :=
  let low (c : Char) : Bool := c.toNat ≤ 32
  let trimmed := (((cs.dropWhile low).reverse).dropWhile low).reverse
  trimmed.filter fun c => !(c == '\t' || c == '\n' || c == '\r')

/-! ## Schemes -/

/-- Whether a character may follow the first one of a scheme. -/
def isSchemeChar (c : Char) : Bool := c.isAlphanum || c == '+' || c == '-' || c == '.'

/-- The scheme in lower case, and what follows its colon. -/
def scheme? (cs : List Char) : Option (List Char × List Char) :=
  match cs with
  | c :: _ =>
    if c.isAlpha then
      match cs.dropWhile isSchemeChar with
      | ':' :: rest => some ((cs.takeWhile isSchemeChar).map Char.toLower, rest)
      | _ => none
    else none
  | [] => none

/-- How the rest of a URL is read. -/
inductive SchemeKind where
  | web
  | file
  | other
  deriving DecidableEq, Repr

/-- The kind of a scheme. -/
def schemeKind (scheme : List Char) : SchemeKind :=
  if String.ofList scheme ∈ ["http", "https", "ws", "wss", "ftp"] then .web
  else if String.ofList scheme = "file" then .file
  else .other

/-! ## The authority -/

/-- Whether a character ends the authority. -/
def endsAuthority (web : Bool) (c : Char) : Bool :=
  c == '/' || c == '?' || c == '#' || (web && c == '\\')

/-- The host up to the colon of its service, where colons in brackets do not count. -/
def hostPart : Bool → List Char → List Char
  | _, [] => []
  | inside, c :: cs =>
    if c = ':' ∧ !inside then []
    else c :: hostPart (if c = '[' then true else if c = ']' then false else inside) cs

/-- The number of a service behind a host, if there is one, and what follows it. A backslash ends it
even where it does not end the authority. -/
def service? (cs : List Char) : Option (Option Nat × List Char) :=
  match cs with
  | [] => some (none, [])
  | ':' :: rest =>
    let digits := rest.takeWhile (· ≠ '\\')
    let after := rest.dropWhile (· ≠ '\\')
    if digits.isEmpty then some (none, after)
    else (numeral? serviceBound digits).map fun n => (some n, after)
  | _ => none

/-- The user in front of the last at sign of an authority, if there is one, and the server. -/
def splitUser (authority : List Char) : Option (List Char) × List Char :=
  let server := (authority.reverse.takeWhile (· ≠ '@')).reverse
  if server.length = authority.length then (none, server)
  else (some (authority.take (authority.length - server.length - 1)), server)

/-- Whether a URL may do without a host. Where it names a user it may not, but a lone colon names
none, and neither does a lone at sign with which the URL ends. -/
def mayLackHost (user : Option (List Char)) (after : List Char) : Bool :=
  match user with
  | none => true
  | some [] => after.isEmpty
  | some user => user = [':']

/-- Reads what follows the two slashes. -/
def authority? (kind : SchemeKind) (scheme rest : List Char) : Option Url :=
  let authority := rest.takeWhile (!endsAuthority (kind == .web) ·)
  let after := rest.drop authority.length
  let (user, server) := splitUser authority
  let name := hostPart false server
  let host := if kind == .web then Host.ofWeb? name else Host.ofOther? name
  match host, service? (server.drop name.length) with
  | some host, some (service, tail) =>
    if name.isEmpty ∧ (!server.isEmpty ∨ !mayLackHost user after) then none
    else some
      { scheme := String.ofList scheme, service
        host := if name.isEmpty then none else some host
        target := String.ofList (tail ++ after) }
  | _, _ => none

/-! ## Files -/

/-- Whether a text names a drive, which is a part of the path. -/
def isDrive : List Char → Bool
  | [c, d] => c.isAlpha && (d == ':' || d == '|')
  | _ => false

/-- Reads what follows the scheme of a file. Most files have no host. -/
def file? (rest : List Char) : Option Url :=
  let isSlash (c : Char) : Bool := c == '/' || c == '\\'
  let url : Url := ⟨"file", none, none, String.ofList rest⟩
  match rest with
  | a :: b :: after =>
    let name := after.takeWhile fun c => !(isSlash c || c == '?' || c == '#')
    if !(isSlash a && isSlash b) || name.isEmpty || isDrive name then some url
    else (Host.ofWeb? name).map fun host => { url with host := some host }
  | _ => some url

/-- The URL that a text is. -/
def Url.ofText? (text : String) : Option Url :=
  match scheme? (clean text.toList) with
  | none => none
  | some (scheme, rest) =>
    match schemeKind scheme with
    | .web => authority? .web scheme (rest.dropWhile fun c => c == '/' || c == '\\')
    | .file => file? rest
    | .other =>
      match rest with
      | '/' :: '/' :: rest => authority? .other scheme rest
      | rest => some ⟨String.ofList scheme, none, none, String.ofList rest⟩

end ChainExplorer.Http
