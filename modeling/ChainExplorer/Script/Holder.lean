import ChainExplorer.Script.Address

/-!
# Holders

The party that a script pays to, as far as the script shows it. Only an ordinary holder has an
address; the others are known by a key and get a label made of it, so that a record can name both
sides of a transfer even where one of them has no address.
-/

namespace ChainExplorer

/-- The party that a script pays to. -/
inductive Holder where
  /-- An ordinary holder. -/
  | address (address : String)
  /-- A holder that a pool or a multisig controls. -/
  | controlled (key : String)
  /-- A holder that the script does not show, known by the script's hash. -/
  | opaqueScript (key : String)
  deriving DecidableEq, Repr

namespace Holder

/-- The address, or the label of a holder without one. -/
def label : Holder → String
  | .address a => a
  | .controlled key => "Pool_or_MS_" ++ key
  | .opaqueScript key => "Pool_" ++ key

/-- The address of an ordinary holder. -/
def address? : Holder → Option String
  | .address a => some a
  | _ => none

/-- The holder of a script that shows none. -/
def hidden? (script : Script) : Option Holder :=
  (Address.scriptHash script.hex).toOption.map .opaqueScript

/-- The holder that a combined script names: one without an address is controlled. -/
def ofCombined (combined : String) : Holder :=
  match Address.ofCombined combined with
  | .ok a => .address a
  | .error _ => .controlled (Address.splitCombined combined).1

/-- The address that the first fields of a disassembly pay to. -/
def paidAddress? (asm : String) : Option String :=
  (Script.paidHash? asm).bind fun pkh => (Address.ofHash pkh).toOption

/-- The holder of a script; a data carrier has none. -/
def ofScript? (script : Script) : Option Holder :=
  match script.kind with
  | .poolTape => none
  | .plainPay =>
    match paidAddress? script.asm with
    | some a => some (.address a)
    | none => hidden? script
  | .tokenCode _ =>
    match Script.codeHolder? script.asm with
    | some combined => some (ofCombined combined)
    | none => hidden? script
  | .multisigPay => (Address.scriptHash script.hex).toOption.map .controlled
  | .unknown => hidden? script

end Holder

end ChainExplorer
