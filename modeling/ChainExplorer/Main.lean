import ChainExplorer.Cli.Plan
import ChainExplorer.History.Explorer
import ChainExplorer.Http.Exchange
import ChainExplorer.Http.Rate
import ChainExplorer.Json.Pretty
import ChainExplorer.Socket.Address
import ChainExplorer.Socket.Frame
import Std.Async.DNS
import Std.Async.TCP
import Std.Time.DateTime.Timestamp

/-!
# The command line

The outer layer: it reads the arguments and the environment, opens sockets, moves bytes, keeps the
time and prints. What is said over a socket, what a machine does next and how anything is worded is
decided elsewhere.

Encryption is not at hand, so a node under `https` cannot be reached.
-/

namespace ChainExplorer.Main

open ChainExplorer.Rpc Std.Async

/-! ## Sockets -/

/-- The socket addresses of a host. -/
def addressesOf (host : String) (service : Nat) : IO (List Std.Net.SocketAddress) := do
  let found ← (DNS.getAddrInfo host (Text.decimal service)).block
  return found.toList.map fun
    | .v4 a => .v4 ⟨a, UInt16.ofNat service⟩
    | .v6 a => .v6 ⟨a, UInt16.ofNat service⟩

/-- Opens a socket to the first address that takes it. -/
def openFirst : List Std.Net.SocketAddress → IO TCP.Socket.Client
  | [] => throw (IO.userError "could not resolve to any address")
  | address :: rest => do
    try
      let socket ← TCP.Socket.Client.mk
      (socket.connect address).block
      socket.noDelay
      return socket
    catch error => if rest.isEmpty then throw error else openFirst rest

/-- Opens a socket to a host. -/
def openSocket (host : String) (service : Nat) : IO TCP.Socket.Client := do
  openFirst (← addressesOf host service)

/-- Sends bytes. -/
def sendBytes (socket : TCP.Socket.Client) (bytes : List UInt8) : IO Unit :=
  (socket.send ⟨bytes.toArray⟩).block

/-- The next bytes of a stream, none at its end. -/
def receiveBytes (socket : TCP.Socket.Client) : IO (List UInt8) := do
  return ((← (socket.recv? 65536).block).map (·.data.toList)).getD []

/-! ## Servers -/

/-- A connection that carries requests. -/
structure Link where
  exchange : Request → IO (Except TransportError Reply)

/-- A server: how it is dialled and probed, how long that and an exchange may take, and the
connections so far. -/
structure Wire where
  dial : IO (Except TransportError Link)
  dialLimit : Nat
  dialLate : TransportError
  exchangeLimit : Nat
  exchangeLate : TransportError
  probeMethod : String
  /-- Connections under the tickets of the acquires that dialled them. -/
  dialled : IO.Ref (List (Nat × Link))
  /-- Connections under the numbers that the pool gives them. -/
  links : IO.Ref (List (Nat × Link))

/-- Reads a reply off a stream, behind what is left over from the one before. -/
partial def readSocketReply (socket : TCP.Socket.Client) (limit : Nat)
    (left : IO.Ref Socket.Chunks) : IO (Except TransportError Reply) := do
  match Socket.readReply limit (← left.get) with
  | .ok (reply, rest) =>
    left.set rest
    return .ok reply
  | .error (.protocol .closedEarly) =>
    let bytes ← receiveBytes socket
    if bytes.isEmpty then return .error (.protocol .closedEarly)
    left.modify (· ++ [bytes])
    readSocketReply socket limit left
  | .error error => return .error error

/-- Dials the index. -/
def dialIndex (text : String) (limit : Nat) : IO (Except TransportError Link) := do
  match Socket.Address.ofText text with
  | .error fault => return .error (Socket.dialError text fault.message)
  | .ok address =>
    try
      let socket ← openSocket address.host address.service
      let left ← IO.mkRef []
      return .ok { exchange := fun request => do
        try
          sendBytes socket (Socket.payload request)
          readSocketReply socket limit left
        catch error => return .error (.io (toString error)) }
    catch error => return .error (Socket.dialError text (toString error))

/-- Waits until the cap lets a request through. -/
partial def awaitRate (rate : IO.Ref (Option Http.Rate)) : IO Unit := do
  let now ← IO.monoNanosNow
  let verdict ← rate.modifyGet fun
    | none => (none, none)
    | some r => match r.pass now with
      | .ok r => (none, some r)
      | .error time => (some time, some r)
  match verdict with
  | none => return
  | some time =>
    IO.sleep (UInt32.ofNat ((time - now) / 1000000 + 1))
    awaitRate rate

/-- Reads a response off a stream. -/
partial def readHttpReply (socket : TCP.Socket.Client) (bytes : List UInt8) (ended : Bool) :
    IO (Except TransportError Reply) := do
  match Http.Response.ofBytes ended bytes with
  | .done response => return response.reply
  | .broken => return .error (.http "error sending request")
  | .more =>
    let next ← receiveBytes socket
    readHttpReply socket (bytes ++ next) next.isEmpty

/-- Dials the node: a connection is made for every exchange. -/
def dialNode (settings : Http.Settings) (rate : IO.Ref (Option Http.Rate)) :
    IO (Except TransportError Link) :=
  return .ok { exchange := fun request => do
    awaitRate rate
    try
      if settings.url.scheme = "https" then throw (IO.userError "encryption is not at hand")
      let name := (settings.url.host.map Http.Host.name).getD ""
      let socket ← openSocket name settings.url.serviceNumber
      sendBytes socket (Http.requestBytes settings request)
      readHttpReply socket [] false
    catch error => return .error (.http (toString error)) }

/-- The wire to the index. -/
def indexWire (options : Cli.Options) : IO Wire := do
  return { dial := dialIndex options.indexAddress options.indexResponseLimit
           dialLimit := 5000, dialLate := .timeout 5000
           exchangeLimit := 1000 * options.callTimeout + 1000
           exchangeLate := .io "no answer"
           probeMethod := "server.ping"
           dialled := ← IO.mkRef [], links := ← IO.mkRef [] }

/-- The wire to the node. -/
def nodeWire (settings : Http.Settings) : IO Wire := do
  let rate ← IO.mkRef (settings.rate.map fun n => { perSecond := n : Http.Rate })
  return { dial := dialNode settings rate
           dialLimit := 10000, dialLate := .http "operation timed out"
           exchangeLimit := 30000, exchangeLate := .http "operation timed out"
           probeMethod := "ping"
           dialled := ← IO.mkRef [], links := ← IO.mkRef [] }

/-! ## Running a machine -/

/-- Something that goes on outside a machine and ends with an event, at the latest at a time. -/
structure Job (ε : Type) where
  task : Task (Except IO.Error ε)
  deadline : Nat
  late : ε

/-- The milliseconds since a start. -/
def elapsed (start : Nat) : IO Nat := return (← IO.monoMsNow) - start

/-- Starts a job. -/
def startJob {ε : Type} (start limit : Nat) (late : ε) (work : IO ε) : IO (Job ε) := do
  return { task := ← IO.asTask work .dedicated, deadline := (← elapsed start) + limit, late }

/-- The event of the first job that is over, and the other jobs. -/
def finishedJob {ε : Type} (now : Nat) : List (Job ε) → IO (Option (ε × List (Job ε)))
  | [] => return none
  | job :: rest => do
    if ← IO.hasFinished job.task then
      match job.task.get with
      | .ok event => return some (event, rest)
      | .error _ => return some (job.late, rest)
    else if job.deadline ≤ now then return some (job.late, rest)
    else return (← finishedJob now rest).map fun (event, others) => (event, job :: others)

/-- Runs a machine until it is over. -/
partial def run {σ ε ο : Type} (machine : Machine σ ε ο) (start : Nat)
    (launch : ο → IO (Option (Job ε))) (stop : σ → IO Bool) (state : σ) (jobs : List (Job ε))
    (events : List ε) : IO σ := do
  match events with
  | event :: rest =>
    match machine.step? state event with
    | none => run machine start launch stop state jobs rest
    | some (state, outputs) =>
      let started ← outputs.filterMapM launch
      run machine start launch stop state (jobs ++ started) rest
  | [] =>
    if ← stop state then return state
    match machine.ready? state with
    | some event => run machine start launch stop state jobs [event]
    | none =>
      let now ← elapsed start
      match machine.due? state with
      | some (time, event) =>
        if time ≤ now then run machine start launch stop (machine.atTime state time) jobs [event]
        else wait now
      | none => wait now
where
  wait (now : Nat) : IO σ := do
    let state := machine.atTime state now
    match ← finishedJob now jobs with
    | some (event, others) => run machine start launch stop state others [event]
    | none =>
      IO.sleep 1
      run machine start launch stop state jobs []

/-- The connection under a number. One that has just been dialled gets its number here, since the
acquire that dialled it is the first to use it. -/
def Wire.link (wire : Wire) (ticket conn : Nat) : IO Link := do
  match (← wire.links.get).find? (·.1 = conn) with
  | some (_, link) => return link
  | none =>
    match (← wire.dialled.get).find? (·.1 = ticket) with
    | some (_, link) =>
      wire.links.modify ((conn, link) :: ·)
      return link
    | none => throw (IO.userError "no such connection")

/-- Carries out what a client asks of its server. -/
def Wire.launch (wire : Wire) (start : Nat) : Client.Output → IO (Option (Job Client.Event))
  | .connect ticket =>
    some <$> startJob start wire.dialLimit (.pool (.connectFailed ticket wire.dialLate)) do
      match ← wire.dial with
      | .ok link =>
        wire.dialled.modify ((ticket, link) :: ·)
        return .pool (.connected ticket)
      | .error error => return .pool (.connectFailed ticket error)
  | .probe ticket conn => do
    let link ← wire.link ticket conn
    some <$> startJob start wire.exchangeLimit (.pool (.probeFailed ticket)) do
      match (← link.exchange (probe wire.probeMethod)).bind Reply.probeOutcome with
      | .ok () => return .pool (.probed ticket)
      | .error _ => return .pool (.probeFailed ticket)
  | .send ticket conn request => do
    let link ← wire.link ticket conn
    some <$> startJob start wire.exchangeLimit (.replied ticket (.error wire.exchangeLate)) do
      return .replied ticket (← link.exchange request)
  | .answer _ _ => return none

/-- The id of a first request: the time, so that no two runs share ids. -/
def firstId : IO UInt64 := do
  return UInt64.ofNat (← Std.Time.Timestamp.now).toNanosecondsSinceUnixEpoch.val.toNat

/-- Asks one query. -/
def askQuery (pool : Pool) (callTimeout : Nat) (wire : Wire) (query : Query Json) :
    IO (Except QueryError Json) := do
  let start ← IO.monoMsNow
  let answer ← IO.mkRef none
  let launch (output : Client.Output) : IO (Option (Job Client.Event)) := do
    if let .answer _ outcome := output then answer.set (some outcome)
    wire.launch start output
  let client := Client.fresh pool callTimeout (← firstId)
  let _ ← run Client.machine start launch (fun _ => return (← answer.get).isSome) client []
    [.call 0 query.method query.params]
  match ← answer.get with
  | some outcome => return query.read outcome
  | none => return .error .cancelled

/-- Makes a history inquiry. -/
def askHistory (options : Cli.Options) (session : Cli.Session) (node index : Wire)
    (address : String) (page size : Nat) : IO (Except QueryError Json) := do
  let start ← IO.monoMsNow
  let launch (output : Explorer.Output) : IO (Option (Job Explorer.Event)) := do
    let wire := match output.side with
      | .node => node
      | .index => index
    let lift (event : Client.Event) : Explorer.Event := .client output.side event
    return (← wire.launch start output.output).map fun job =>
      { task := job.task.map (·.map lift), deadline := job.deadline, late := lift job.late }
  let explorer := Explorer.idle { options.inquiryConfig with } options.store?
    (.fresh session.nodePool session.callTimeout (← firstId))
    (.fresh session.indexPool session.callTimeout (← firstId))
  let final ← run Explorer.machine start launch (fun x => return x.inquiry.outcome?.isSome)
    (explorer.ask false address page size) [] []
  return (final.inquiry.outcome?.getD (.error .cancelled)).map History.Page.toJson

/-- Carries a command out. -/
def carryOut (arguments : Cli.Arguments) : IO (Except Cli.Failure Json) := do
  match arguments.options.session with
  | .error failure => return .error failure
  | .ok session =>
    let node ← nodeWire session.node
    let index ← indexWire arguments.options
    let outcome ← match arguments.command.inquest with
      | .error error => pure (.error error)
      | .ok (.inquiry address page size) =>
        askHistory arguments.options session node index address page size
      | .ok (.askNode query) => askQuery session.nodePool session.callTimeout node query
      | .ok (.askIndex query) => askQuery session.indexPool session.callTimeout index query
    return outcome.mapError (⟨.carryOut arguments.command, ·⟩)

/-! ## Arguments -/

/-- How the program is used. -/
def usage : String :=
  "usage: chain-explorer [options] history|balance|utxos|pool <address or txid>\noptions: "
    ++ " ".intercalate (Cli.outerSettings.map fun setting => "--" ++ setting.name)

/-- The variables of the environment that options take their values from. -/
def environment : IO (String → Option String) := do
  let found ← (Cli.outerSettings.filterMap (·.envName)).filterMapM fun name => do
    return (← IO.getEnv name).map fun value => (name, value)
  return fun name => (found.find? (·.1 = name)).map (·.2)

/-- The wording of a refused command line, and the code to exit with. -/
def refusal : Cli.ArgumentFault → String × UInt32
  | .help => (usage, 0)
  | .version => ("chain-explorer 0.1.0", 0)
  | .nothingGiven => (usage, 2)
  | .noCommand => ("error: a command is missing\n" ++ usage, 2)
  | .unknownCommand => ("error: unknown command\n" ++ usage, 2)
  | .unknownArgument => ("error: unknown argument\n" ++ usage, 2)
  | .noValue => ("error: an option lacks its value\n" ++ usage, 2)
  | .badValue => ("error: invalid value\n" ++ usage, 2)
  | .uncalledValue => ("error: an option takes no value\n" ++ usage, 2)
  | .repeatedOption => ("error: an option is given twice\n" ++ usage, 2)
  | .noArgument => ("error: the command lacks its argument\n" ++ usage, 2)

end ChainExplorer.Main

open ChainExplorer in
/-- Runs a command line. -/
def main (args : List String) : IO UInt32 := do
  match Cli.Arguments.ofCommandLine (← Main.environment) args with
  | .error fault =>
    let (text, code) := Main.refusal fault
    if code = 0 then IO.println text else IO.eprintln text
    return code
  | .ok arguments =>
    match ← Main.carryOut arguments with
    | .ok value =>
      IO.println value.pretty
      return 0
    | .error failure =>
      IO.eprintln ("Error: " ++ failure.activity.message)
      IO.eprintln ("Caused by: " ++ failure.error.message)
      return 1
