/-!
# Locking scripts

An output is locked by a script. The node gives it in two forms, the bytes in hexadecimal and their
disassembly, and everything this library says about a script is read off the disassembly by the
pattern of its fields; no script is ever run. The pattern is looked up once and kept as the
script's kind.
-/

namespace ChainExplorer

/-- The two token contracts that a code script can belong to. -/
inductive TokenFlavor where
  | fungible
  | nonFungible
  deriving DecidableEq, Repr

/-- What a script is for. A pool tape is a script that carries data and can never be spent. -/
inductive ScriptKind where
  | plainPay
  | multisigPay
  | tokenCode (flavor : TokenFlavor)
  | poolTape
  | unknown
  deriving DecidableEq, Repr

/-- The short name of a kind. -/
def ScriptKind.name : ScriptKind → String
  | .plainPay => "plain_pay"
  | .multisigPay => "multisig_pay"
  | .tokenCode .fungible => "ft_code"
  | .tokenCode .nonFungible => "nft_code"
  | .poolTape => "tape"
  | .unknown => "unknown"

/-- A script in both of its forms. -/
structure Script where
  hex : String
  asm : String
  kind : ScriptKind
  deriving DecidableEq, Repr

end ChainExplorer
