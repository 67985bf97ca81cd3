import ChainExplorer.Rpc.Client
import ChainExplorer.Simulation.Scene

/-!
# Scripted servers

A server answers requests by rules. A rule is looked up under the method and the first
parameter, then under the method alone, then the next one of a queue is taken; the rules under a
name are used up in their order, except the last, which stays. Where there is none, the server
answers as one that knows nothing.

The server is in memory: it can be slow and it can make an exchange fail, its connects fail only as
often as told, and every probe finds it healthy.
-/

namespace ChainExplorer.Simulation

open ChainExplorer.Rpc

/-- The id that a reply carries. -/
inductive ReplyId where
  | same
  | asText
  | next
  | previous
  | omitted
  | fixed (value : Json)
  deriving Repr

/-- How a request is answered. -/
structure Rule where
  result : Option Json := none
  error : Option Json := none
  id : ReplyId := .same
  latency : Nat := 0
  failure : Option TransportError := none
  deriving Repr

/-- A scripted server, and the requests that have reached it. -/
structure Server where
  rules : List (String × List Rule) := []
  queue : List Rule := []
  connectFailures : Nat := 0
  /-- How connects fail, if none ever reaches the server. -/
  undialable : Option TransportError := none
  /-- How exchanges fail, if none ever reaches the server. -/
  unreachable : Option TransportError := none
  /-- The connects that have reached the server. -/
  connects : Nat := 0
  received : List Request := []
  deriving Repr

namespace Server

/-- The first parameter of a request as it stands in the name of a rule. -/
def argument (request : Request) : String :=
  match request.params with
  | [] => "null"
  | .string s :: _ => s
  | value :: _ => value.text

/-- The name of the rules for a request. -/
def ruleName (request : Request) : String := request.method ++ "|" ++ argument request

/-- Takes the next rule under a name; the last one stays. -/
def takeNamed (name : String) :
    List (String × List Rule) → Option (Rule × List (String × List Rule))
  | [] => none
  | (n, rules) :: rest =>
    if n = name then
      match rules with
      | [] => none
      | [rule] => some (rule, (n, [rule]) :: rest)
      | rule :: more => some (rule, (n, more) :: rest)
    else (takeNamed name rest).map fun (rule, rest) => (rule, (n, rules) :: rest)

/-- The error object of a code and a message. -/
def errorObject (code : Int) (message : String) : Json :=
  .object [("code", .int code), ("message", .string message)]

/-- The methods of probes. -/
def probeMethods : List String := ["ping", "server.ping"]

/-- How a request is answered that no rule is for. -/
def fallback (method : String) : Rule :=
  if method = "getrawtransaction" then
    { error := some (errorObject (-5) "No such mempool or blockchain transaction.") }
  else if method = "blockchain.scripthash.get_history"
      ∨ method = "blockchain.scripthash.listunspent" then
    { result := some (.array []) }
  else if method = "blockchain.scripthash.get_balance" then
    { result := some (.object [("confirmed", .int 0), ("unconfirmed", .int 0)]) }
  else { error := some (errorObject (-32601) "unknown method") }

/-- Takes the rule for a request. -/
def takeRule (u : Server) (request : Request) : Rule × Server :=
  match takeNamed (ruleName request) u.rules with
  | some (rule, rules) => (rule, { u with rules })
  | none =>
    match takeNamed request.method u.rules with
    | some (rule, rules) => (rule, { u with rules })
    | none =>
      if request.method ∈ probeMethods then ({ result := some .null }, u)
      else match u.queue with
        | rule :: queue => (rule, { u with queue })
        | [] => (fallback request.method, u)

/-- The id member of a reply. -/
def idMembers (id : UInt64) : ReplyId → List (String × Json)
  | .same => [("id", .int id.toNat)]
  | .asText => [("id", .string (Text.decimal id.toNat))]
  | .next => [("id", .int (id + 1).toNat)]
  | .previous => [("id", .int (id - 1).toNat)]
  | .omitted => []
  | .fixed value => [("id", value)]

/-- The reply that a rule gives to a request. -/
def reply? (rule : Rule) (request : Request) : Option Reply :=
  Reply.ofMembers?
    (idMembers request.id rule.id
      ++ (rule.result.map fun v => ("result", v)).toList
      ++ (rule.error.map fun v => ("error", v)).toList)

/-- How an exchange ends that a rule answers. -/
def exchange (rule : Rule) (request : Request) : Except TransportError Reply :=
  match rule.failure with
  | some error => .error error
  | none =>
    match reply? rule request with
    | some reply => .ok reply
    | none => .error (.protocol .badFrame)

/-- Takes a request in: how the exchange ends, and after how long. -/
def receive (u : Server) (request : Request) :
    Server × Except TransportError Reply × Nat :=
  match u.unreachable with
  | some error => (u, .error error, 0)
  | none =>
    let (rule, u) := u.takeRule request
    ({ u with received := u.received ++ [request] }, exchange rule request, rule.latency)

/-- The failure of a connect. -/
def refused : TransportError := .connect "connection refused"

/-- Takes a connect in; how it fails, if it does. Where exchanges get nowhere, a connection is made
without reaching the server. -/
def connect (u : Server) : Server × Option TransportError :=
  match u.undialable, u.unreachable with
  | some error, _ => (u, some error)
  | none, some _ => (u, none)
  | none, none =>
    ({ u with connects := u.connects + 1, connectFailures := u.connectFailures - 1 },
      if 0 < u.connectFailures then some refused else none)

end Server

/-- How a server reacts to what a client asks; an answer to a caller is not for it. -/
def Server.react (u : Server) :
    Client.Output → Server × Option (Reaction Client.Event)
  | .connect ticket =>
    let (u, failure) := u.connect
    (u, some ⟨0, .pool (match failure with
      | some error => .connectFailed ticket error
      | none => .connected ticket)⟩)
  | .probe ticket _ => (u, some ⟨0, .pool (.probed ticket)⟩)
  | .send ticket _ request =>
    let (u, outcome, latency) := u.receive request
    (u, some ⟨latency, .replied ticket outcome⟩)
  | .answer _ _ => (u, none)

end ChainExplorer.Simulation
