import ChainExplorer.Bytes.Utf8
import ChainExplorer.Idna.Domain
import ChainExplorer.Text.Decimal

/-!
# Hosts of URLs

The host of a web URL is an IPv6 address in brackets, or else a domain name, after its
percent-encoded bytes have been put in and the name has been brought into ASCII. A name whose last
label is a number is an IPv4 address or nothing. Other schemes have hosts too, but these are taken
as they are.
-/

namespace ChainExplorer.Http

open ChainExplorer.Text

/-- A host. -/
inductive Host where
  /-- A domain name in ASCII. -/
  | domain (name : String)
  | ipv4 (address : Nat)
  /-- The text of an IPv6 address, without its brackets. -/
  | ipv6 (text : String)
  /-- A host that only its scheme understands. -/
  | other (text : String)
  deriving DecidableEq, Repr

/-! ## IPv4 -/

/-- The number of a part of an IPv4 address: decimal, octal behind a zero, hexadecimal behind
`0x`. -/
def ipv4Part? : List Char → Option Nat
  | [] => none
  | '0' :: 'x' :: cs => if Hex.isHex cs then some (Hex.value cs) else none
  | '0' :: 'X' :: cs => if Hex.isHex cs then some (Hex.value cs) else none
  | '0' :: cs =>
    if cs.all fun c => '0' ≤ c && c ≤ '7' then
      some (cs.foldl (fun n c => 8 * n + (digit? c).getD 0) 0)
    else none
  | cs => if cs.all isDigit then some (ofDigits cs) else none

/-- The labels of a domain; a dot at the end adds none. -/
def labels (name : List Char) : List (List Char) :=
  let ls := pieces '.' name
  if 1 < ls.length ∧ ls.getLast? = some [] then ls.dropLast else ls

/-- Whether a domain ends in a number, and so has to be an IPv4 address. -/
def endsInNumber (name : List Char) : Bool :=
  match (labels name).getLast? with
  | some last => (!last.isEmpty && last.all isDigit) || (last.length > 1 && (ipv4Part? last).isSome)
  | none => false

/-- The IPv4 address of one to four parts, each a byte but for the last, which fills up. -/
def ipv4? (name : List Char) : Option Nat :=
  let parts := labels name
  match parts.mapM ipv4Part? with
  | some ns =>
    let room := Nat.pow 256 (5 - parts.length)
    let last := ns.getLast?.getD 0
    if parts.length ≤ 4 ∧ ns.dropLast.all (· < 256) ∧ last < room then
      some (ns.dropLast.foldl (fun n part => 256 * n + part) 0 * room + last)
    else none
  | none => none

/-- The four bytes of an IPv4 address, in decimal. -/
def ipv4Text (address : Nat) : String :=
  ".".intercalate <| [3, 2, 1, 0].map fun i => decimal (address / Nat.pow 256 i % 256)

/-! ## IPv6 -/

/-- Whether a text is a part of an IPv6 address. -/
def isIpv6Piece (cs : List Char) : Bool := !cs.isEmpty && cs.length ≤ 4 && Hex.isHex cs

/-- Whether a text is four decimal bytes without superfluous zeros. -/
def isDottedQuad (cs : List Char) : Bool :=
  let parts := pieces '.' cs
  parts.length == 4 && parts.all fun p =>
    !p.isEmpty && p.all isDigit && (p.length == 1 || p.head? != some '0') && ofDigits p < 256

/-- How many parts of an IPv6 address a run of pieces stands for; a quad at its end stands for
two. -/
def ipv6Parts? (allowQuad : Bool) (ps : List (List Char)) : Option Nat :=
  match ps.reverse with
  | [] => some 0
  | last :: before =>
    if !before.all isIpv6Piece then none
    else if isIpv6Piece last then some ps.length
    else if allowQuad && isDottedQuad last then some (ps.length + 1)
    else none

/-- The texts around the first `::`. -/
def splitDoubleColon? : List Char → Option (List Char × List Char)
  | ':' :: ':' :: cs => some ([], cs)
  | c :: cs => (splitDoubleColon? cs).map fun r => (c :: r.1, r.2)
  | [] => none

/-- Whether a text is an IPv6 address: eight parts, of which a run may be left out at `::`. -/
def isIpv6 (cs : List Char) : Bool :=
  let run (cs : List Char) : List (List Char) := if cs.isEmpty then [] else pieces ':' cs
  match splitDoubleColon? cs with
  | none => ipv6Parts? true (run cs) = some 8
  | some (front, back) =>
    match ipv6Parts? false (run front), ipv6Parts? true (run back) with
    | some m, some n => m + n < 8
    | _, _ => false

/-- The IPv6 address in a text that begins with a bracket. -/
def bracketed? (cs : List Char) : Option Host :=
  let inside := (cs.drop 1).dropLast
  if cs.getLast? = some ']' ∧ isIpv6 inside then some (.ipv6 (String.ofList inside)) else none

/-! ## Names -/

/-- Puts in the bytes that are written as a percent sign and two digits. -/
def percentDecode : List UInt8 → List UInt8
  | 37 :: a :: b :: bytes =>
    match Hex.digit? (Char.ofNat a.toNat), Hex.digit? (Char.ofNat b.toNat) with
    | some x, some y => UInt8.ofNat (16 * x + y) :: percentDecode bytes
    | _, _ => 37 :: percentDecode (a :: b :: bytes)
  | byte :: bytes => byte :: percentDecode bytes
  | [] => []

/-- The name that a text denotes, if what is written as bytes in it makes up characters. -/
def unescaped? (cs : List Char) : Option (List Char) :=
  if cs.contains '%' then Utf8.decode? (percentDecode (Utf8.encode cs)) else some cs

/-- The characters that no host holds. -/
def isForbidden (c : Char) : Bool :=
  c.toNat = 0 || c ∈ ['\t', '\n', '\r', ' ', '#', '/', ':', '<', '>', '?', '@', '[', '\\', ']', '^',
    '|']

/-- The characters that no domain holds. -/
def isForbiddenInDomain (c : Char) : Bool :=
  isForbidden c || c.toNat < 32 || c == '%' || c.toNat == 127

/-- The host that a domain name in ASCII denotes. -/
def Host.ofName? (name : List Char) : Option Host :=
  if name.isEmpty then none
  else if endsInNumber name then (ipv4? name).map .ipv4
  else some (.domain (String.ofList name))

/-- The host of a web URL. -/
def Host.ofWeb? (cs : List Char) : Option Host :=
  if cs.head? = some '[' then bracketed? cs
  else ((unescaped? cs).bind (Idna.toAscii? isForbiddenInDomain)).bind Host.ofName?

/-- The host of any other URL; it may be empty. -/
def Host.ofOther? (cs : List Char) : Option Host :=
  if cs.head? = some '[' then bracketed? cs
  else if cs.any isForbidden then none
  else some (.other (String.ofList cs))

/-- The text under which a host is looked up. -/
def Host.name : Host → String
  | .domain name => name
  | .ipv4 address => ipv4Text address
  | .ipv6 text => text
  | .other text => text

/-- The text of a host in a URL. -/
def Host.text : Host → String
  | .ipv6 text => "[" ++ text ++ "]"
  | host => host.name

end ChainExplorer.Http
