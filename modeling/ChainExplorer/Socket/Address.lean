import ChainExplorer.Error.Rpc
import ChainExplorer.Words

/-!
# Socket addresses

The index is dialled at `host:service`, where the service is a number. What cannot be dialled at all
is found out before any name is looked up.
-/

namespace ChainExplorer.Socket

open ChainExplorer.Text

/-- Why an address cannot be dialled. -/
inductive AddressFault where
  | noService
  | badService
  deriving DecidableEq, Repr

/-- The wording of an address that cannot be dialled. -/
def AddressFault.message : AddressFault → String
  | .noService => "invalid socket address"
  | .badService => "invalid port value"

/-- A host and the number of a service on it. -/
structure Address where
  host : String
  service : Nat
  deriving DecidableEq, Repr

/-- The texts around the last colon. -/
def splitLastColon? (cs : List Char) : Option (List Char × List Char) :=
  let service := (cs.reverse.takeWhile (· ≠ ':')).reverse
  if service.length = cs.length then none
  else some (cs.take (cs.length - service.length - 1), service)

/-- The host and the service of an address. -/
def Address.ofText (text : String) : Except AddressFault Address :=
  match splitLastColon? text.toList with
  | none => .error .noService
  | some (host, service) =>
    match unsigned? serviceBound service with
    | none => .error .badService
    | some service => .ok ⟨String.ofList host, service⟩

/-- Why a dial fails, with the address in front. -/
def dialError (text cause : String) : TransportError := .connect (text ++ ": " ++ cause)

end ChainExplorer.Socket
