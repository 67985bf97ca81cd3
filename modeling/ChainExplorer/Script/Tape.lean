import ChainExplorer.Script.Pattern
import ChainExplorer.Script.Word
import ChainExplorer.Words

/-!
# Pool tapes

A liquidity pool keeps its state in a data carrier next to its token. The fields of the tape are

| field | content |
|---|---|
| 0, 1 | the marker of a data carrier |
| 2 | the partial hashes of the pool token and of the paired token, 64 digits each |
| 3 | the balances of pool token, paired token and base coin, 16 digits each, little-endian |
| 4 | the contract of the paired token |
| 5 | the fee rate, on tapes of seven fields or more |
| last | the tag of the layout |

A field may be longer than its layout, and then only its front counts; a shorter one is an error.
Nothing is ever filled in.
-/

namespace ChainExplorer

open ChainExplorer.Text

/-- The state of a pool. -/
structure PoolTape where
  lpPartialHash : String
  tokenPartialHash : String
  lpBalance : UInt64
  tokenBalance : UInt64
  baseBalance : UInt64
  contractId : String
  feeRate : Option UInt64
  deriving DecidableEq, Repr

namespace PoolTape

/-- Digits of one partial hash. -/
def hashWidth : Nat := 64

/-- Digits of one balance. -/
def balanceWidth : Nat := 16

/-- Fields of the older layout. -/
def leastFields : Nat := 6

/-- The first digits of a field that has at least so many. The width of a shorter field is counted
in bytes. -/
def front (name : TapeField) (width : Nat) (field : String) : Except DecodeError (List Char) :=
  if field.utf8ByteSize < width then .error (.fieldWidth name width field.utf8ByteSize)
  else if Hex.isHexOfLength width (field.toList.take width) then .ok (field.toList.take width)
  else .error (.invalidHex field)

/-- The balance in a slot of the balances. -/
def balance (balances : List Char) (slot : Nat) : Except DecodeError UInt64 :=
  Script.reversedWord (String.ofList ((balances.drop (slot * balanceWidth)).take balanceWidth))

/-- The contract of the paired token. -/
def contract (field : String) : Except DecodeError String :=
  if Hex.isHex field.toList then .ok field else .error (.invalidHex field)

/-- The fee rate: a decimal word, with or without a plus sign. -/
def rate (field : String) : Except DecodeError UInt64 :=
  match unsigned? wordBound field.toList with
  | some n => .ok (UInt64.ofNat n)
  | none => .error (.invalidNumber field)

/-- The tape with these fields from the third on. -/
def ofPayload (hashes balances contractId : String) (fee : Option String) :
    Except DecodeError PoolTape := do
  let hashes ← front .partialHashes (2 * hashWidth) hashes
  let balances ← front .balances (3 * balanceWidth) balances
  let contractId ← contract contractId
  let feeRate ← fee.mapM rate
  let lpBalance ← balance balances 0
  let tokenBalance ← balance balances 1
  let baseBalance ← balance balances 2
  return {
    lpPartialHash := String.ofList (hashes.take hashWidth)
    tokenPartialHash := String.ofList (hashes.drop hashWidth)
    lpBalance, tokenBalance, baseBalance, contractId, feeRate }

/-- The tape with these fields. The marker is looked for in the second field alone, and the sixth is
a fee rate only where a seventh follows it. -/
def ofFields : List String → Except DecodeError PoolTape
  | _ :: marker :: hashes :: balances :: contractId :: sixth :: rest =>
    if marker = "OP_RETURN" then
      ofPayload hashes balances contractId (if rest.isEmpty then none else some sixth)
    else .error .notPoolTape
  | fields => .error (.fieldCount leastFields fields.length)

/-- The tape that a disassembly shows. -/
def decode (asm : String) : Except DecodeError PoolTape := ofFields (words asm)

/-- The tape of a script; only a data carrier has one. -/
def ofScript (script : Script) : Except DecodeError PoolTape :=
  if script.kind = .poolTape then decode script.asm else .error .notPoolTape

/-! ## Writing a tape -/

/-- The bytes of a word, the lowest first. -/
def wordBytes (w : UInt64) : List UInt8 :=
  (List.range 8).map fun i => UInt8.ofNat (w.toNat / Nat.pow 256 i)

/-- The little-endian numeral of a word. -/
def wordDigits (w : UInt64) : List Char := Hex.encode (wordBytes w)

/-- The fields of a tape, ended by the tag of its layout. -/
def toFields (tape : PoolTape) (tag : String) : List String :=
  ["0", "OP_RETURN", tape.lpPartialHash ++ tape.tokenPartialHash,
    String.ofList (wordDigits tape.lpBalance ++ wordDigits tape.tokenBalance
      ++ wordDigits tape.baseBalance),
    tape.contractId]
    ++ (match tape.feeRate with
      | some fee => [decimal fee.toNat]
      | none => [])
    ++ [tag]

/-- The disassembly of a tape. -/
def encode (tape : PoolTape) (tag : String) : String := " ".intercalate (tape.toFields tag)

end PoolTape

end ChainExplorer
