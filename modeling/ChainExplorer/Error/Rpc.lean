import ChainExplorer.Json.Printer
import ChainExplorer.Time.Span

/-!
# Why a call to a server fails

Three layers, each of which hands its cause on to the next: a single connection (`TransportError`),
the pool that leases it (`PoolError`), the call that uses the lease (`RpcError`). A transport error
leaves its connection in an unknown state, so it always costs the connection; what the server said
deliberately never does.
-/

namespace ChainExplorer

open ChainExplorer.Text

/-- How a server broke the protocol. -/
inductive ProtocolFault where
  /-- A reply whose id is not that of the request. -/
  | foreignId (id : Json) (expected : Nat)
  /-- A probe answered under another id. -/
  | probeId (id : Json)
  /-- A probe answered with an error. -/
  | probeRejected (error : Json)
  /-- The stream ended inside a frame. -/
  | closedEarly
  /-- A frame that is no reply. -/
  | badFrame
  /-- An HTTP body that is no reply, under the status line it came with. -/
  | badBody (status : String)
  /-- A violation that the connection itself words. -/
  | reported (text : String)
  deriving Repr

/-- The wording of a violation. -/
def ProtocolFault.message : ProtocolFault → String
  | .foreignId id expected =>
    "response id " ++ id.text ++ " does not match request id " ++ decimal expected
  | .probeId id => "health ping answered with id " ++ id.text
  | .probeRejected error => "health probe rejected: " ++ error.text
  | .closedEarly => "connection closed before a complete response"
  | .badFrame => "decode JSON-RPC frame: not a reply"
  | .badBody status => "decode JSON-RPC response (status " ++ status ++ "): not a reply"
  | .reported text => text

/-- Why a single connection failed. -/
inductive TransportError where
  | connect (cause : String)
  | io (cause : String)
  | http (cause : String)
  /-- No answer within so many milliseconds. -/
  | timeout (span : Nat)
  | protocol (fault : ProtocolFault)
  /-- A response of more than so many bytes. -/
  | tooLarge (limit : Nat)
  deriving Repr

/-- The wording of a failed connection. -/
def TransportError.message : TransportError → String
  | .connect cause => "connect failed: " ++ cause
  | .io cause => "i/o failure: " ++ cause
  | .http cause => "http failure: " ++ cause
  | .timeout span => "upstream did not answer within " ++ Time.spanText span
  | .protocol fault => "protocol violation: " ++ fault.message
  | .tooLarge limit => "response exceeds " ++ decimal limit ++ " bytes"

/-- Why a pool leased no connection. -/
inductive PoolError where
  | closed
  | timeout
  | connect (error : TransportError)
  deriving Repr

/-- The wording of a refused lease. -/
def PoolError.message : PoolError → String
  | .closed => "connection pool is closed"
  | .timeout => "timed out waiting for a pooled connection"
  | .connect error => "could not open upstream connection: " ++ error.message

/-- What is wrong with a reply that carries the right id. -/
inductive ReplyFault where
  /-- The result of a method has not the shape that the caller asked for. -/
  | undecodable (method : String)
  /-- The error is neither a code with a message nor a bare string. -/
  | nonStandardError (error : Json)
  deriving Repr

/-- The wording of a faulty reply. -/
def ReplyFault.message : ReplyFault → String
  | .undecodable method => "decode " ++ method ++ " result: unexpected shape"
  | .nonStandardError error => "non-standard JSON-RPC error: " ++ error.text

/-- Why a call yields no result. -/
inductive RpcError where
  | pool (error : PoolError)
  | transport (error : TransportError)
  | server (code : Int) (message : String)
  | invalidResponse (fault : ReplyFault)
  deriving Repr

/-- The wording of a failed call. -/
def RpcError.message : RpcError → String
  | .pool error => error.message
  | .transport error => error.message
  | .server code message => "server error " ++ signedDecimal code ++ ": " ++ message
  | .invalidResponse fault => "invalid response: " ++ fault.message

/-- Whether the same call may succeed later: a failed connection or an exhausted pool may recover,
a closed pool and a deliberate answer do not. -/
def RpcError.isRetryable : RpcError → Bool
  | .pool .closed => false
  | .pool _ => true
  | .transport _ => true
  | .server _ _ => false
  | .invalidResponse _ => false

end ChainExplorer
