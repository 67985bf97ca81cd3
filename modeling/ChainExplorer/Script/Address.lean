import ChainExplorer.Error.Decode
import ChainExplorer.Script.Pattern

/-!
# Addresses

Three names for one holder: the public-key hash in hexadecimal, its Base58Check address, and the
combined script, which is the hash followed by one byte that says what kind of holder it is. The
index knows scripts by yet another name, the byte-reversed hash of their bytes.
-/

namespace ChainExplorer.Address

/-- The byte in front of a public-key hash in an address. -/
def version : UInt8 := 0

/-- The suffix of an ordinary holder's combined script. -/
def holderSuffix : String := "00"

/-- The suffix of the combined script of a holder that a pool or a multisig controls. -/
def controlledSuffix : String := "01"

/-- The address of a public-key hash. -/
def ofHash (pkh : String) : Except DecodeError String :=
  if Script.isHash pkh then
    match Hex.decode pkh.toList with
    | some hash => .ok (String.ofList (Base58.encodeCheck (version :: hash)))
    | none => .error (.invalidHex pkh)
  else .error (.invalidHex pkh)

/-- The hash in the payload of an address. -/
def payloadHash : List UInt8 → Except AddressFault (List UInt8)
  | [] => .error (.payloadLength 0)
  | byte :: hash =>
    if byte ≠ version then .error (.version byte)
    else if hash.length = Script.hashWidth / 2 then .ok hash
    else .error (.payloadLength (hash.length + 1))

/-- The public-key hash of an address, in lower case. -/
def toHash (address : String) : Except DecodeError String :=
  match Base58.decodeCheck address.toList with
  | .error fault => .error (.invalidAddress address (.notBase58Check fault))
  | .ok payload =>
    match payloadHash payload with
    | .error fault => .error (.invalidAddress address fault)
    | .ok hash => .ok (String.ofList (Hex.encode hash))

/-- The hash and the suffix of a combined script. -/
def splitCombined (combined : String) : String × String :=
  (String.ofList (combined.toList.take Script.hashWidth),
    String.ofList (combined.toList.drop Script.hashWidth))

/-- The address of a combined script; only an ordinary holder has one. -/
def ofCombined (combined : String) : Except DecodeError String :=
  if Script.isCombined combined then
    let (pkh, suffix) := splitCombined combined
    if suffix = holderSuffix then ofHash pkh
    else if suffix = controlledSuffix then .error (.noAddressForm combined)
    else .error (.invalidCombinedScript combined)
  else .error (.invalidCombinedScript combined)

/-- The combined script of an ordinary holder. -/
def toCombined (address : String) : Except DecodeError String :=
  (toHash address).map (· ++ holderSuffix)

/-- The bytes of the script that pays to a public-key hash. -/
def payScript (pkh : String) : String := "76a914" ++ pkh ++ "88ac"

/-- The name that the index gives to a script: the hash of its bytes, last byte first. -/
def scriptHash (hex : String) : Except DecodeError String :=
  match Hex.decode hex.toList with
  | some bytes => .ok (String.ofList (Hex.encode (Sha256.hash bytes).reverse))
  | none => .error (.invalidHex hex)

/-- The name that the index gives to the script that pays to an address. -/
def indexKey (address : String) : Except DecodeError String :=
  (toHash address).bind fun pkh => scriptHash (payScript pkh)

end ChainExplorer.Address
