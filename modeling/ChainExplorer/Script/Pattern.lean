import ChainExplorer.Bytes.Hex
import ChainExplorer.Script.Basic
import ChainExplorer.Text.Blank

/-!
# The patterns of disassembled scripts

A kind is a pattern over the fields of the disassembly. The patterns overlap, so their order counts:
a plain payment comes first because it is the only one that fixes the whole script, then the data
carriers and the token codes, which fix a beginning, and last the multisig, which fixes only the
end.
-/

namespace ChainExplorer.Script

open ChainExplorer.Text

/-- Hexadecimal digits of a public-key hash. -/
def hashWidth : Nat := 40

/-- Hexadecimal digits of a combined script: a public-key hash and a byte that types its holder. -/
def combinedWidth : Nat := hashWidth + 2

/-- The opcodes that open the code of a fungible token. -/
def fungibleOpening : List String := ["OP_9", "OP_PICK", "OP_TOALTSTACK"]

/-- The opcodes that open the code of a non-fungible token. -/
def nonFungibleOpening : List String := ["OP_1", "OP_PICK", "OP_3", "OP_SPLIT", "OP_NIP"]

/-- Whether a field is a public-key hash. -/
def isHash (field : String) : Bool := Hex.isHexOfLength hashWidth field.toList

/-- Whether a field is a combined script. -/
def isCombined (field : String) : Bool := Hex.isHexOfLength combinedWidth field.toList

/-- The five fields of a payment to a public-key hash. -/
def isPlainPay : List String → Bool
  | ["OP_DUP", "OP_HASH160", pkh, "OP_EQUALVERIFY", "OP_CHECKSIG"] => isHash pkh
  | _ => false

/-- A data carrier: its first opcode, or its second behind a zero, ends the run. -/
def carriesData : List String → Bool
  | first :: rest =>
    first == "OP_RETURN"
      || ((first == "0" || first == "OP_0" || first == "OP_FALSE")
        && rest.head? == some "OP_RETURN")
  | [] => false

/-- The kind of a script with these fields. -/
def kindOfFields (fields : List String) : ScriptKind :=
  if isPlainPay fields then .plainPay
  else if carriesData fields then .poolTape
  else if fungibleOpening.isPrefixOf fields then .tokenCode .fungible
  else if nonFungibleOpening.isPrefixOf fields then .tokenCode .nonFungible
  else if fields.getLast? = some "OP_CHECKMULTISIG" then .multisigPay
  else .unknown

/-- The kind of a script with this disassembly. -/
def classify (asm : String) : ScriptKind := kindOfFields (words asm)

/-- The script of two forms, under the kind that its disassembly shows. -/
def ofForms (hex asm : String) : Script := ⟨hex, asm, classify asm⟩

/-- The public-key hash of fields that begin like a plain payment. -/
def paidHashOfFields? : List String → Option String
  | "OP_DUP" :: "OP_HASH160" :: pkh :: _ => if isHash pkh then some pkh else none
  | _ => none

/-- The public-key hash that a script pays to, where it begins like a plain payment. -/
def paidHash? (asm : String) : Option String := paidHashOfFields? (words asm)

/-- The last field but one. -/
def lastButOne? (fields : List String) : Option String :=
  if 2 ≤ fields.length then fields[fields.length - 2]? else none

/-- The combined script that a token code names as its holder: the last field but one, in front of
the tag of the contract. -/
def codeHolder? (asm : String) : Option String :=
  (lastButOne? (words asm)).filter isCombined

end ChainExplorer.Script
