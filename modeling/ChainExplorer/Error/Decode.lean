import ChainExplorer.Bytes.Base58
import ChainExplorer.Bytes.Hex
import ChainExplorer.Text.Decimal

/-!
# Why a script or an address does not decode

A decoder fails for one of the causes below and carries the text it failed on. The wording of a
cause is `message`; nothing in the library decides anything by wording.
-/

namespace ChainExplorer

open ChainExplorer.Text

/-- Why a text is no address of a public-key hash. -/
inductive AddressFault where
  | notBase58Check (fault : Base58.Fault)
  | version (byte : UInt8)
  | payloadLength (length : Nat)
  deriving DecidableEq, Repr

/-- The wording of a fault of Base58. -/
def Base58.Fault.message : Base58.Fault → String
  | .badCharacter => "decode"
  | .tooShort => "too short"
  | .badChecksum => "incorrect checksum"

/-- The wording of a fault of an address. -/
def AddressFault.message : AddressFault → String
  | .notBase58Check fault => fault.message
  | .version byte => "unsupported version byte 0x" ++ String.ofList (Hex.encode [byte])
  | .payloadLength n => "unexpected payload length " ++ decimal n

/-- The fields of a pool tape that have a least width. -/
inductive TapeField where
  | partialHashes
  | balances
  deriving DecidableEq, Repr

/-- The name of a field. -/
def TapeField.name : TapeField → String
  | .partialHashes => "partial_hashes"
  | .balances => "balances"

/-- Why a script, an address or a number of one does not decode. -/
inductive DecodeError where
  | invalidHex (text : String)
  | overflow (text : String)
  | invalidNumber (text : String)
  | invalidAddress (address : String) (fault : AddressFault)
  | invalidCombinedScript (text : String)
  | noAddressForm (text : String)
  | fieldCount (expected found : Nat)
  | fieldWidth (field : TapeField) (expected found : Nat)
  | notPoolTape
  deriving DecidableEq, Repr

/-- The wording of a cause. -/
def DecodeError.message : DecodeError → String
  | .invalidHex text => "invalid hex `" ++ text ++ "`"
  | .overflow text => "integer overflow decoding `" ++ text ++ "`"
  | .invalidNumber text => "invalid decimal number `" ++ text ++ "`"
  | .invalidAddress address fault => "invalid address `" ++ address ++ "`: " ++ fault.message
  | .invalidCombinedScript text =>
    "combined script `" ++ text ++ "` is not a 20-byte hash plus a type suffix"
  | .noAddressForm text => "combined script `" ++ text ++ "` has no address form"
  | .fieldCount expected found =>
    "expected at least " ++ decimal expected ++ " script fields, found " ++ decimal found
  | .fieldWidth field expected found =>
    "field `" ++ field.name ++ "` must be " ++ decimal expected ++ " hex characters, found "
      ++ decimal found
  | .notPoolTape => "script is not a token pool tape"

end ChainExplorer
