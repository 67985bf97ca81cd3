import ChainExplorer.Error.Rpc
import ChainExplorer.Json.Skipper
import ChainExplorer.Words

/-!
# Requests and replies

One envelope serves both servers. A reply answers the request whose id it carries, and that id may
come back as a number or as a numeral in a string; any other id answers nothing. Id zero is kept for
the probes that a pool sends on idle connections.
-/

namespace ChainExplorer.Rpc

open ChainExplorer.Text

/-- A request. -/
structure Request where
  id : UInt64
  method : String
  params : List Json
  deriving Repr

/-- The envelope of a request, its members in the order in which they are written. -/
def Request.toJson (request : Request) : Json :=
  .object [("jsonrpc", .string "2.0"), ("id", .int request.id.toNat),
    ("method", .string request.method), ("params", .array request.params)]

/-- The frame of a request on a stream: one line. -/
def Request.frame (request : Request) : List Char := request.toJson.render ++ ['\n']

/-- A reply. A member that is `null` counts as missing, except the id. -/
structure Reply where
  id : Json
  result : Option Json
  error : Option Json
  deriving Repr

/-- A value, unless it is `null`. -/
def present : Json → Option Json
  | .null => none
  | value => some value

/-- The values of the members with a key. -/
def valuesOf (key : String) (members : List (String × Json)) : List Json :=
  (members.filter (·.1 = key)).map (·.2)

/-- The reply with these members, none of its own twice. -/
def Reply.ofMembers? (members : List (String × Json)) : Option Reply :=
  let ids := valuesOf "id" members
  let results := valuesOf "result" members
  let errors := valuesOf "error" members
  if ids.length ≤ 1 ∧ results.length ≤ 1 ∧ errors.length ≤ 1 then
    some ⟨ids.head?.getD .null, results.head?.bind present, errors.head?.bind present⟩
  else none

/-- The reply that an object or a triple holds. -/
def Reply.ofJson? : Json → Option Reply
  | .object members => Reply.ofMembers? members
  | .array [id, result, error] => some ⟨id, present result, present error⟩
  | _ => none

/-- Whether a reply has a member with a key. -/
def Reply.isMember (key : String) : Bool := key = "id" || key = "result" || key = "error"

/-- The reply that a text holds. Its own members are taken as they are written, so that one written
twice is seen, and any other member is passed over. -/
def Reply.ofText? (cs : List Char) : Option Reply :=
  match Json.readObject? Reply.isMember cs with
  | some members => Reply.ofMembers? members
  | none => (Json.read? cs).bind Reply.ofJson?

/-- The id that a reply answers. -/
def replyId? : Json → Option Nat
  | .string s => unsigned? wordBound s.toList
  | value => value.natural?

/-- The cause that an error member states. -/
def RpcError.ofJson (error : Json) : RpcError :=
  match error with
  | .string text => .server 0 text
  | .object _ =>
    match (error.get? "code").bind Json.integer?, (error.get? "message").bind Json.string? with
    | some code, some message => .server code message
    | _, _ => .invalidResponse (.nonStandardError error)
  | .array [code, message] =>
    match code.integer?, message.string? with
    | some code, some message => .server code message
    | _, _ => .invalidResponse (.nonStandardError error)
  | _ => .invalidResponse (.nonStandardError error)

/-- What a reply says: its error, else its result, else `null`. -/
def Reply.outcome (reply : Reply) : Except RpcError Json :=
  match reply.error with
  | some error => .error (RpcError.ofJson error)
  | none => .ok (reply.result.getD .null)

/-- What a reply says to the call with an id. -/
def Reply.answerTo (reply : Reply) (id : UInt64) : Except RpcError Json :=
  if replyId? reply.id = some id.toNat then reply.outcome
  else .error (.transport (.protocol (.foreignId reply.id id.toNat)))

/-! ## Probes -/

/-- The id of every probe. -/
def probeId : UInt64 := 0

/-- A probe. -/
def probe (method : String) : Request := ⟨probeId, method, []⟩

/-- What a reply to a probe says of the connection. -/
def Reply.probeOutcome (reply : Reply) : Except TransportError Unit :=
  if replyId? reply.id = some probeId.toNat then
    match reply.error with
    | some error => .error (.protocol (.probeRejected error))
    | none => .ok ()
  else .error (.protocol (.probeId reply.id))

end ChainExplorer.Rpc
