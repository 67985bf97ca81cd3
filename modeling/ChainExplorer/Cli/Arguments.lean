import ChainExplorer.Cli.Parse
import ChainExplorer.Text.Decimal
import ChainExplorer.Words

/-!
# The options of the explorer

Every option of the outer level has a default or may be missing, and may stand in the environment.
What is on the command line wins over the environment, and the environment over the default.
-/

namespace ChainExplorer.Cli

open ChainExplorer.Text

/-- The options of the outer level. Spans are in the units that their names on the command line
carry. -/
structure Options where
  nodeUrl : String := "http://127.0.0.1:8332"
  nodeUser : Option String := none
  nodePassword : Option String := none
  nodeRate : Option Nat := none
  indexAddress : String := "127.0.0.1:50001"
  indexResponseLimit : Nat := 16777216
  callTimeout : Nat := 30
  maxOpen : Nat := 16
  maxIdle : Nat := 4
  idleTimeout : Nat := 90
  evictionInterval : Nat := 30
  acquireTimeout : Nat := 10
  retryWindow : Nat := 2000
  workers : Nat := 8
  queueCapacity : Nat := 64
  storeCapacity : Nat := 10000
  deriving DecidableEq, Repr

/-- What the explorer is told to do. -/
inductive Command where
  | history (address : String) (page size : Nat)
  | balance (address : String)
  | utxos (address : String)
  | pool (txid : String)
  deriving DecidableEq, Repr

/-- What is read from a command line. -/
structure Arguments where
  options : Options
  command : Command
  deriving DecidableEq, Repr

/-- An option whose value is any text. -/
def textSetting {α : Type} (name : String) (envName : Option String)
    (set : String → α → α) : Setting α :=
  ⟨name, envName, fun text settings => some (set text settings)⟩

/-- An option whose value is a word. -/
def wordSetting {α : Type} (name : String) (envName : Option String)
    (set : Nat → α → α) : Setting α :=
  ⟨name, envName, fun text settings => (unsigned? wordBound text.toList).map (set · settings)⟩

/-- Reads a half word, which a minus sign may precede as long as it is zero. -/
def halfWord? : List Char → Option Nat
  | '-' :: cs => numeral? 1 cs
  | cs => unsigned? halfWordBound cs

/-- The name of a variable of the environment. -/
def envNameOf (name : String) : Option String := some ("TAPESCAN_" ++ name)

/-- The options of the outer level. -/
def outerSettings : List (Setting Options) :=
  [ textSetting "node-url" (envNameOf "NODE_URL") fun v o => { o with nodeUrl := v },
    textSetting "node-user" (envNameOf "NODE_USER") fun v o => { o with nodeUser := some v },
    textSetting "node-pass" (envNameOf "NODE_PASS")
      fun v o => { o with nodePassword := some v },
    ⟨"node-requests-per-second", envNameOf "NODE_RPS", fun text o =>
      (halfWord? text.toList).map fun v => { o with nodeRate := some v }⟩,
    textSetting "index-addr" (envNameOf "INDEX_ADDR") fun v o => { o with indexAddress := v },
    wordSetting "index-max-response-bytes" (envNameOf "INDEX_MAX_RESPONSE")
      fun v o => { o with indexResponseLimit := v },
    wordSetting "call-timeout-secs" (envNameOf "CALL_TIMEOUT")
      fun v o => { o with callTimeout := v },
    wordSetting "pool-max-open" (envNameOf "POOL_MAX_OPEN") fun v o => { o with maxOpen := v },
    wordSetting "pool-max-idle" (envNameOf "POOL_MAX_IDLE") fun v o => { o with maxIdle := v },
    wordSetting "pool-idle-timeout-secs" (envNameOf "POOL_IDLE_TIMEOUT")
      fun v o => { o with idleTimeout := v },
    wordSetting "pool-eviction-interval-secs" (envNameOf "POOL_EVICTION_INTERVAL")
      fun v o => { o with evictionInterval := v },
    wordSetting "pool-acquire-timeout-secs" (envNameOf "POOL_ACQUIRE_TIMEOUT")
      fun v o => { o with acquireTimeout := v },
    wordSetting "pool-retry-window-ms" (envNameOf "POOL_RETRY_WINDOW_MS")
      fun v o => { o with retryWindow := v },
    wordSetting "workers" (envNameOf "WORKERS") fun v o => { o with workers := v },
    wordSetting "queue-capacity" (envNameOf "QUEUE_CAPACITY")
      fun v o => { o with queueCapacity := v },
    wordSetting "tx-cache-capacity" (envNameOf "TX_CACHE")
      fun v o => { o with storeCapacity := v } ]

/-- The names of the commands. -/
def commandNames : List String := ["history", "balance", "utxos", "pool"]

/-- The command that shows help. -/
def helpCommand : String := "help"

/-- The outer level. -/
def outerLevel : Level Options where
  settings := outerSettings
  commands := helpCommand :: commandNames
  hasVersion := true

/-- A page number and a page size. -/
structure PageOptions where
  page : Nat := 0
  size : Nat := 10
  deriving DecidableEq, Repr

/-- The level of the history command. -/
def historyLevel : Level PageOptions where
  settings :=
    [ wordSetting "page" none fun v o => { o with page := v },
      wordSetting "size" none fun v o => { o with size := v } ]

/-- The level of a command without options. -/
def bareLevel : Level Unit where
  settings := []

/-- What the help command shows: help on everything, or on one command. -/
def helpFault : List String → ArgumentFault
  | [] => .help
  | [name] => if name ∈ outerLevel.commands then .help else .unknownCommand
  | _ => .unknownCommand

/-- Reads a command. -/
def Command.ofArguments (name : String) (args : List String) : Except ArgumentFault Command :=
  if name = "history" then
    (historyLevel.scanCommand {} args).map fun (o, address) => .history address o.page o.size
  else if name = "balance" then (bareLevel.scanCommand () args).map fun (_, a) => .balance a
  else if name = "utxos" then (bareLevel.scanCommand () args).map fun (_, a) => .utxos a
  else if name = "pool" then (bareLevel.scanCommand () args).map fun (_, t) => .pool t
  else .error (helpFault args)

/-- Reads a command line under an environment. -/
def Arguments.ofCommandLine (environment : String → Option String) (args : List String) :
    Except ArgumentFault Arguments := do
  let (scan, ending) ← outerLevel.scan { settings := {} } args
  let command ← match ending with
    | some (name, rest) => (Command.ofArguments name rest).map some
    | none => .ok none
  let scan ← scan.resolve
  let scan ← Level.takeVariables environment outerSettings scan
  match command with
  | some command => .ok ⟨scan.settings, command⟩
  | none => .error (if scan.given.isEmpty then .nothingGiven else .noCommand)

end ChainExplorer.Cli
