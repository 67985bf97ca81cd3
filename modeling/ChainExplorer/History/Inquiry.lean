import ChainExplorer.Store
import ChainExplorer.Tasks.FanOut

/-!
# A history inquiry

A page is put together from three sources that have to be asked one after the other: the index says
which transactions touch the address, a first round of lookups brings the transactions of the page,
and a second round brings the transactions whose outputs they take. The ids of the second round are
a set and come in an order of its own. Each round is a fan-out of lookups, so its answers come in any
order; what it found is kept under the id that each answer itself carries, of two answers with one
id the later.

A lookup tries the store first and offers it what the node brings. A lookup that fails costs only
the records that need it. A cancellation is different: the submitter and the workers of the round
give up one after another what they have in hand, and then the inquiry ends at the next point between
two stages, and never yields a page.
-/

namespace ChainExplorer.History

/-- What a lookup brings. -/
abbrev LookupResult := Except QueryError Transaction

/-- The transactions that a round brought, each id once. -/
abbrev Found := List Transaction

/-- Keeps a transaction in place of any other with its id. -/
def Found.put (found : Found) (tx : Transaction) : Found :=
  found.filter (·.txid ≠ tx.txid) ++ [tx]

/-- What the lookups of a round brought; a later answer replaces an earlier one with its id. -/
def Found.ofResults (results : List LookupResult) : Found :=
  (results.filterMap Except.toOption).foldl Found.put []

/-- The transaction under an id. -/
def Found.lookup (found : Found) : Earlier := fun txid => found.find? (·.txid = txid)

/-- The ids of the transactions whose outputs are taken, each once. -/
def Found.takenIds (found : Found) : List String :=
  ((found.flatMap fun tx => tx.inputs.filterMap id).map (·.txid)).eraseDups

/-- An order in which the members of a set are gone through: any that leaves out none and brings
none twice. -/
structure SetOrder where
  arrange : List String → List String
  perm : ∀ ids, (arrange ids).Perm ids

/-- The order in which the members were put in. -/
def SetOrder.inserted : SetOrder := ⟨id, fun _ => .refl _⟩

/-- How many lookups may run and wait at once. -/
structure LookupLimits where
  workers : Nat := 8
  queueCapacity : Nat := 64
  deriving DecidableEq, Repr

/-- How an inquiry goes about its rounds: within which limits, and in which order it goes through a
set of ids, which nothing fixes. -/
structure InquiryConfig extends LookupLimits where
  order : SetOrder := .inserted

/-- How far an inquiry has come. -/
inductive Stage where
  | index
  | first (index : List Reference) (round : FanOut String LookupResult)
  | second (index : List Reference) (found : Found) (round : FanOut String LookupResult)
  | done (outcome : Except QueryError Page)

/-- An inquiry on its way. -/
structure Inquiry where
  config : InquiryConfig
  address : String
  indexKey : String
  page : Nat
  size : Nat
  store : Option Store
  cancelled : Bool
  stage : Stage

namespace Inquiry

/-- What an inquiry asks of the servers. -/
inductive Ask where
  | index (key : String)
  | lookup (number : Nat) (txid : String)
  /-- The answer to a lookup is not wanted any more. -/
  | drop (number : Nat)
  deriving DecidableEq, Repr

/-- What can happen to an inquiry. -/
inductive Event where
  | index (answer : Except QueryError (List Reference))
  /-- The next lookup of the round is submitted. -/
  | next
  | enter
  | start
  | found (number : Nat) (answer : LookupResult)
  | cancel
  /-- The submitter of the round or one of its workers sees that the inquiry is cancelled. -/
  | quit (party : Tasks.Party)

/-- The outcome of an inquiry that has ended. -/
def outcome? (q : Inquiry) : Option (Except QueryError Page) :=
  match q.stage with
  | .done outcome => some outcome
  | _ => none

/-- The round of lookups that is going on. -/
def round? (q : Inquiry) : Option (FanOut String LookupResult) :=
  match q.stage with
  | .first _ round => some round
  | .second _ _ round => some round
  | _ => none

/-- The inquiry with its round in another state. -/
def withRound (q : Inquiry) (round : FanOut String LookupResult) : Inquiry :=
  match q.stage with
  | .first index _ => { q with stage := .first index round }
  | .second index found _ => { q with stage := .second index found round }
  | _ => q

/-- A round of lookups. -/
def roundOf (q : Inquiry) (txids : List String) : FanOut String LookupResult :=
  .ofInputs txids q.config.workers q.config.queueCapacity

/-- The lookups of the second round, in the order of the inquiry. -/
def laterIds (q : Inquiry) (found : Found) : List String := q.config.order.arrange found.takenIds

/-- The references of the page. -/
def references (q : Inquiry) (index : List Reference) : List Reference :=
  paginate index q.page q.size

/-- The page, from what both rounds found. -/
def pageOf (q : Inquiry) (index : List Reference) (first second : Found) : Page :=
  assemble q.address q.indexKey index q.page q.size first.lookup second.lookup

/-- Ends the inquiry. -/
def finish (q : Inquiry) (outcome : Except QueryError Page) : Inquiry :=
  { q with stage := .done outcome }

/-- Goes on to a stage, unless the inquiry has been cancelled. -/
def goOn (q : Inquiry) (stage : Stage) : Inquiry :=
  if q.cancelled then q.finish (.error .cancelled) else { q with stage }

/-- Goes on to the next stage if this one is over. -/
def proceed (q : Inquiry) : Inquiry :=
  match q.stage with
  | .first index round =>
    if round.isDone then
      let found := Found.ofResults round.tasks.outcomes
      q.goOn (.second index found (q.roundOf (q.laterIds found)))
    else q
  | .second index first round =>
    if round.isDone then
      q.goOn (.done (.ok (q.pageOf index first (Found.ofResults round.tasks.outcomes))))
    else q
  | _ => q

/-- Takes the index in. -/
def takeIndex (q : Inquiry) : Except QueryError (List Reference) → Inquiry
  | .error error => q.finish (.error error)
  | .ok index =>
    q.goOn (.first index (q.roundOf ((q.references index).map (·.txid))))

/-- Looks into the store for a lookup that starts, which counts as a use of what is there. -/
def askStore (q : Inquiry) (txid : String) : Option Transaction × Inquiry :=
  match q.store with
  | none => (none, q)
  | some store => ((store.get txid).1, { q with store := some (store.get txid).2 })

/-- Offers what the node brought to the store. -/
def offer (q : Inquiry) : LookupResult → Inquiry
  | .ok tx => { q with store := q.store.map (·.put tx) }
  | .error _ => q

/-- The lookup that starts next. -/
def nextLookup? (round : FanOut String LookupResult) : Option (TaskItem String) :=
  round.tasks.queue.head?

/-- The inquiry after a step of its round. -/
def roundStep? (q : Inquiry) (event : FanOut.Event LookupResult) : Option Inquiry := do
  let round ← q.round?
  let round ← round.step? event
  return q.withRound round

/-- Starts the next lookup: it ends at once with what the store has, else the node is asked. -/
def start? (q : Inquiry) : Option (Inquiry × List Ask) := do
  let round ← q.round?
  let task ← nextLookup? round
  let started ← q.roundStep? .start
  match started.askStore task.input with
  | (some tx, q) => return ((← q.roundStep? (.finish task.number (.ok tx))).proceed, [])
  | (none, q) => return (q, [.lookup task.number task.input])

/-- Cancels the inquiry, and its round with it. The index is waited for all the same. -/
def cancel (q : Inquiry) : Inquiry := { (q.roundStep? .cancel).getD q with cancelled := true }

/-- What is not wanted any more when somebody quits: the answer to the lookup that a worker ran. -/
def dropped : Tasks.Party → List Ask
  | .running number => [.drop number]
  | .submitter | .idle => []

/-- The inquiry after an event, and what it asks; nothing where the event cannot happen. -/
def step? (q : Inquiry) : Event → Option (Inquiry × List Ask)
  | .index answer =>
    match q.stage with
    | .index => some (q.takeIndex answer, [])
    | _ => none
  | .next => (q.roundStep? .next).map fun q => (q.proceed, [])
  | .enter => (q.roundStep? .enter).map fun q => (q, [])
  | .start => q.start?
  | .found number answer =>
    (q.roundStep? (.finish number answer)).map fun q => ((q.offer answer).proceed, [])
  | .cancel => if q.outcome?.isSome then none else some (q.cancel, [])
  | .quit party => (q.roundStep? (.quit party)).map fun q => (q.proceed, dropped party)

/-- An inquiry about an address. A bad address ends it at once, and an index that the store keeps is
not asked for. -/
def begin (config : InquiryConfig) (store : Option Store) (cancelled : Bool)
    (address : String) (page size : Nat) : Inquiry × List Ask :=
  match Address.indexKey address with
  | .error error =>
    (⟨config, address, "", page, size, store, cancelled, .done (.error (.decode error))⟩, [])
  | .ok key =>
    let q : Inquiry := ⟨config, address, key, page, size, store, cancelled, .index⟩
    match store.bind (·.references? key) with
    | some index => (q.takeIndex (.ok index), [])
    | none => (q, [.index key])

/-- Something that can happen without anything from outside. -/
def ready? (q : Inquiry) : Option Event :=
  q.round?.bind fun round =>
    match round.ready? with
    | some .next => some .next
    | some .enter => some .enter
    | some .start => some .start
    | some (.quit party) => some (.quit party)
    | _ => none

end Inquiry

end ChainExplorer.History
