import ChainExplorer.Error.Decode
import ChainExplorer.Error.Rpc

/-!
# Why a query fails

The causes that reach the asker: a failed call, a text that does not decode, a transaction that the
node does not know or that makes no sense, a bad argument, a cancellation.
-/

namespace ChainExplorer

open ChainExplorer.Text

/-- Why an amount is none. -/
inductive AmountFault where
  | malformed
  | outOfRange
  | notANumber
  deriving DecidableEq, Repr

/-- The wording of a bad amount, behind the amount itself. -/
def AmountFault.message : AmountFault → String
  | .malformed => ""
  | .outOfRange => ": out of range"
  | .notANumber => ": expected a number"

/-- Why a block time has no calendar form. -/
inductive BlockTimeFault where
  /-- It does not fit a signed word. -/
  | tooLarge (seconds : Nat)
  /-- It lies past the last calendar year. -/
  | pastCalendar
  deriving DecidableEq, Repr

/-- The wording of a block time that has no calendar form. -/
def BlockTimeFault.message : BlockTimeFault → String
  | .tooLarge seconds => decimal seconds
  | .pastCalendar => "timestamp was not in range"

/-- What is wrong with the data of a transaction. -/
inductive TransactionFault where
  | missing (what : String)
  | invalidId (field value : String)
  | outOfRange (field : String) (value : Nat)
  | tooManyOutputs
  | amount (value : Json) (fault : AmountFault)
  | missingOutput (txid : String) (vout : Nat)
  | blockTime (fault : BlockTimeFault)
  deriving Repr

/-- The wording of faulty data. -/
def TransactionFault.message : TransactionFault → String
  | .missing what => "missing " ++ what
  | .invalidId field value => "invalid " ++ field ++ ": `" ++ value ++ "`"
  | .outOfRange field value => field ++ " out of range: " ++ decimal value
  | .tooManyOutputs => "too many outputs"
  | .amount value fault => "invalid amount `" ++ value.text ++ "`" ++ fault.message
  | .missingOutput txid vout => txid ++ ":" ++ decimal vout ++ " spends a missing output"
  | .blockTime fault => "block time out of range: " ++ fault.message

/-- What is wrong with an argument. -/
inductive InputFault where
  | noConnections
  | noEvictionInterval
  | zeroRate
  | partialCredentials
  | badUrl (url : String)
  | badScheme (scheme : String)
  | notATransactionId (text : String)
  | noPoolTape (txid : String)
  deriving DecidableEq, Repr

/-- The wording of a bad argument. -/
def InputFault.message : InputFault → String
  | .noConnections => "pool max_open must be at least 1"
  | .noEvictionInterval => "pool eviction interval must be non-zero"
  | .zeroRate => "requests_per_second must be at least 1"
  | .partialCredentials => "both rpc user and rpc pass must be set together"
  | .badUrl url => "invalid node url `" ++ url ++ "`: expected HTTP(S) URL (malformed)"
  | .badScheme scheme =>
    "unsupported connection scheme `" ++ scheme ++ "`; expected http or https"
  | .notATransactionId text => "`" ++ text ++ "` is not a transaction id"
  | .noPoolTape txid => txid ++ " carries no pool tape output"

/-- Why a query fails. -/
inductive QueryError where
  | rpc (error : RpcError)
  | decode (error : DecodeError)
  | notFound (txid : String)
  | invalidTransaction (fault : TransactionFault)
  | invalidInput (fault : InputFault)
  | cancelled
  deriving Repr

/-- The wording of a failed query. -/
def QueryError.message : QueryError → String
  | .rpc error => "RPC communication failure: " ++ error.message
  | .decode error => "decode failure: " ++ error.message
  | .notFound txid => "transaction not found: " ++ txid
  | .invalidTransaction fault => "invalid transaction data: " ++ fault.message
  | .invalidInput fault => "invalid input: " ++ fault.message
  | .cancelled => "operation cancelled"

end ChainExplorer
