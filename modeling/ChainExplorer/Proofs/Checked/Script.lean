import ChainExplorer.Proofs.Checked.Reader
import ChainExplorer.Proofs.Script.Credit

/-!
# Scripts are read within their fields

The pattern of a script is looked for field by field, behind a test of how many fields there are.
Whoever extracts a field makes that test anew, so it does not matter what kind the script is said to
be of (`holder_eq`).
-/

namespace ChainExplorer.Checked

open ChainExplorer.Text

/-! ## Combined scripts -/

def ofCombined (combined : String) : Reader String :=
  if isHexOfLength Script.combinedWidth combined then do
    let pkh ← Partial.text combined 0 Script.hashWidth
    let suffix ← Partial.text combined Script.hashWidth combined.utf8ByteSize
    if suffix = Address.holderSuffix then total (Address.ofHash pkh)
    else if suffix = Address.controlledSuffix then throw (.noAddressForm combined)
    else throw (.invalidCombinedScript combined)
  else throw (.invalidCombinedScript combined)

/-- The hash in front of the suffix is cut off a combined script. -/
theorem text_front_of_combined {combined : String} (h : Script.isCombined combined = true) :
    Partial.text combined 0 Script.hashWidth = .ok (Address.splitCombined combined).1 := by
  obtain ⟨hlength, hdigits⟩ := Hex.isHexOfLength_iff.1 h
  refine Partial.text_of_ascii (Nat.zero_le _) ?_ ?_
  · rw [hlength]
    exact Nat.le_add_right _ _
  · intro c hc
    exact ascii_of_digits hdigits c (List.mem_of_mem_take hc)

theorem run_ofCombined (combined : String) :
    (ofCombined combined).run = .ok (Address.ofCombined combined) := by
  unfold ofCombined Address.ofCombined
  refine run_ite (by rw [isHexOfLength_eq, Script.isCombined]) ?_ fun _ => rfl
  intro hcombined
  rw [isHexOfLength_eq] at hcombined
  obtain ⟨hlength, hdigits⟩ := Hex.isHexOfLength_iff.1 hcombined
  have hwithin : Script.hashWidth ≤ combined.toList.length := by
    rw [hlength]
    exact Nat.le_add_right _ _
  rw [run_lift_bind (text_front_of_combined hcombined),
    run_lift_bind (Partial.text_to_end hwithin (ascii_of_digits hdigits))]
  refine run_ite Iff.rfl (fun _ => rfl) fun _ => ?_
  exact run_ite Iff.rfl (fun _ => rfl) fun _ => rfl

/-! ## Patterns -/

/-- The field at a place. -/
def fieldAt (fields : List String) (place : Nat) : Except Breach String := Partial.item fields place

def isPlainPay (fields : List String) : Except Breach Bool :=
  if fields.length = 5 then do
    let pkh ← fieldAt fields 2
    return (← fieldAt fields 0) == "OP_DUP" && (← fieldAt fields 1) == "OP_HASH160"
      && (← fieldAt fields 3) == "OP_EQUALVERIFY" && (← fieldAt fields 4) == "OP_CHECKSIG"
      && isHexOfLength Script.hashWidth pkh
  else return false

def carriesData (fields : List String) : Except Breach Bool :=
  if 1 ≤ fields.length then do
    let first ← fieldAt fields 0
    if first == "OP_RETURN" then return true
    else if (first == "0" || first == "OP_0" || first == "OP_FALSE") && 2 ≤ fields.length then
      return (← fieldAt fields 1) == "OP_RETURN"
    else return false
  else return false

def opensWith (opening fields : List String) : Except Breach Bool :=
  if opening.length ≤ fields.length then do
    return (← Partial.items fields 0 opening.length) == opening
  else return false

def endsWith (last : String) (fields : List String) : Except Breach Bool :=
  if 1 ≤ fields.length then do
    return (← fieldAt fields (← Partial.minus fields.length 1)) == last
  else return false

def classify (asm : String) : Except Breach ScriptKind := do
  let fields := words asm
  if ← isPlainPay fields then return .plainPay
  else if ← carriesData fields then return .poolTape
  else if ← opensWith Script.fungibleOpening fields then return .tokenCode .fungible
  else if ← opensWith Script.nonFungibleOpening fields then return .tokenCode .nonFungible
  else if ← endsWith "OP_CHECKMULTISIG" fields then return .multisigPay
  else return .unknown

theorem isPlainPay_eq (fields : List String) :
    isPlainPay fields = .ok (Script.isPlainPay fields) := by
  by_cases hcount : fields.length = 5
  · match fields, hcount with
    | [dup, hash, pkh, verify, sig], _ =>
      show Except.ok (dup == "OP_DUP" && hash == "OP_HASH160" && verify == "OP_EQUALVERIFY"
        && sig == "OP_CHECKSIG" && isHexOfLength Script.hashWidth pkh) = _
      rw [isHexOfLength_eq, Except.ok.injEq, Bool.eq_iff_iff, Script.isPlainPay_iff]
      simp only [Bool.and_eq_true, beq_iff_eq, Script.payment, List.cons.injEq, and_true,
        Hex.isHexOfLength_iff, Hex.Numeral, Script.hashWidth]
      constructor
      · rintro ⟨⟨⟨⟨rfl, rfl⟩, rfl⟩, rfl⟩, hpkh⟩
        exact ⟨pkh, ⟨rfl, rfl, rfl, rfl, rfl⟩, hpkh⟩
      · rintro ⟨_, ⟨rfl, rfl, rfl, rfl, rfl⟩, hpkh⟩
        exact ⟨⟨⟨⟨rfl, rfl⟩, rfl⟩, rfl⟩, hpkh⟩
  · have hnot : Script.isPlainPay fields = false := by
      apply Bool.eq_false_iff.2
      intro hplain
      obtain ⟨pkh, rfl, -⟩ := Script.isPlainPay_iff.1 hplain
      exact hcount rfl
    rw [isPlainPay, if_neg hcount, hnot]
    rfl

theorem carriesData_eq : ∀ fields, carriesData fields = .ok (Script.carriesData fields)
  | [] => rfl
  | [first] => by
    show (if first == "OP_RETURN" then _ else
      if (first == "0" || first == "OP_0" || first == "OP_FALSE") && false then _ else _) = _
    rw [Script.carriesData, Bool.and_false]
    cases first == "OP_RETURN" with
    | true => rfl
    | false => exact congrArg Except.ok (Bool.and_false _).symm
  | first :: second :: rest => by
    show (if first == "OP_RETURN" then _ else
      if (first == "0" || first == "OP_0" || first == "OP_FALSE") && true then
        (Except.ok (second == "OP_RETURN") : Except Breach Bool) else _) = _
    rw [Script.carriesData]
    cases first == "OP_RETURN" with
    | true => rfl
    | false =>
      cases first == "0" || first == "OP_0" || first == "OP_FALSE" with
      | true => rfl
      | false => rfl

theorem opensWith_eq (opening fields : List String) :
    opensWith opening fields = .ok (opening.isPrefixOf fields) := by
  unfold opensWith
  split
  · rename_i hcount
    rw [Partial.items_eq_ok.2 ⟨⟨Nat.zero_le _, hcount⟩, rfl⟩]
    show Except.ok (_ == opening) = _
    rw [List.drop_zero, Nat.sub_zero, Except.ok.injEq, Bool.eq_iff_iff, beq_iff_eq,
      List.isPrefixOf_iff_prefix, List.prefix_iff_eq_take, eq_comm]
  · rename_i hcount
    have hnot : opening.isPrefixOf fields = false := by
      apply Bool.eq_false_iff.2
      intro hopens
      exact hcount (List.isPrefixOf_iff_prefix.1 hopens).length_le
    rw [hnot]
    rfl

theorem endsWith_eq (last : String) (fields : List String) :
    endsWith last fields = .ok (fields.getLast? == some last) := by
  rcases fields.eq_nil_or_concat' with rfl | ⟨front, field, rfl⟩
  · rfl
  · have hcount : 1 ≤ (front ++ [field]).length := by simp
    have hitem : fieldAt (front ++ [field]) ((front ++ [field]).length - 1) = .ok field := by
      apply Partial.item_eq_ok.2
      simp
    rw [endsWith, if_pos hcount, bind_of_ok (Partial.minus_eq_ok.2 ⟨hcount, rfl⟩), bind_of_ok hitem,
      List.getLast?_concat]
    rfl

theorem classify_eq (asm : String) : classify asm = .ok (Script.classify asm) := by
  unfold classify Script.classify Script.kindOfFields
  refine ite_of_ok (isPlainPay_eq _) rfl ?_
  refine ite_of_ok (carriesData_eq _) rfl ?_
  refine ite_of_ok (opensWith_eq _ _) rfl ?_
  refine ite_of_ok (opensWith_eq _ _) rfl ?_
  rw [bind_of_ok (endsWith_eq _ _)]
  simp only [beq_iff_eq]
  split <;> rfl

/-! ## Extracted fields -/

def paidHash (asm : String) : Except Breach (Option String) :=
  let fields := words asm
  if 3 ≤ fields.length then do
    let pkh ← fieldAt fields 2
    if (← fieldAt fields 0) == "OP_DUP" && (← fieldAt fields 1) == "OP_HASH160"
        && isHexOfLength Script.hashWidth pkh then return some pkh
    else return none
  else return none

def codeHolder (asm : String) : Except Breach (Option String) :=
  let fields := words asm
  if 2 ≤ fields.length then do
    let candidate ← fieldAt fields (← Partial.minus fields.length 2)
    return if isHexOfLength Script.combinedWidth candidate then some candidate else none
  else return none

theorem paidHashOfFields?_cons (dup hash pkh : String) (rest : List String) :
    Script.paidHashOfFields? (dup :: hash :: pkh :: rest)
      = if dup == "OP_DUP" && hash == "OP_HASH160" && Script.isHash pkh then some pkh
        else none := by
  by_cases hopens : dup = "OP_DUP" ∧ hash = "OP_HASH160"
  · obtain ⟨rfl, rfl⟩ := hopens
    rfl
  · unfold Script.paidHashOfFields?
    split
    · rename_i heq
      simp only [List.cons.injEq] at heq
      exact absurd ⟨heq.1, heq.2.1⟩ hopens
    · rw [if_neg]
      simp only [Bool.and_eq_true, beq_iff_eq]
      exact fun h => hopens h.1

theorem paidHashOfFields?_of_short {fields : List String} (h : fields.length < 3) :
    Script.paidHashOfFields? fields = none := by
  unfold Script.paidHashOfFields?
  split
  · simp only [List.length_cons] at h
    omega
  · rfl

theorem paidHash_eq (asm : String) : paidHash asm = .ok (Script.paidHash? asm) := by
  unfold paidHash Script.paidHash?
  generalize words asm = fields
  by_cases hcount : 3 ≤ fields.length
  · match fields, hcount with
    | dup :: hash :: pkh :: rest, hcount =>
      rw [paidHashOfFields?_cons, Script.isHash, ← isHexOfLength_eq, if_pos hcount]
      show (if dup == "OP_DUP" && hash == "OP_HASH160" && isHexOfLength Script.hashWidth pkh then _
        else _) = _
      split <;> rfl
  · rw [if_neg hcount, paidHashOfFields?_of_short (Nat.lt_of_not_le hcount)]
    rfl

theorem codeHolder_eq (asm : String) : codeHolder asm = .ok (Script.codeHolder? asm) := by
  unfold codeHolder Script.codeHolder? Script.lastButOne?
  generalize words asm = fields
  by_cases hcount : 2 ≤ fields.length
  · have hplace : fields.length - 2 < fields.length := by omega
    have hfield := List.getElem?_eq_getElem hplace
    have hitem : fieldAt fields (fields.length - 2) = .ok _ := Partial.item_eq_ok.2 hfield
    rw [if_pos hcount, if_pos hcount, bind_of_ok (Partial.minus_eq_ok.2 ⟨hcount, rfl⟩),
      bind_of_ok hitem, hfield, Option.filter_some, isHexOfLength_eq]
    rfl
  · rw [if_neg hcount, if_neg hcount]
    rfl

/-! ## Holders -/

def holder (script : Script) : Except Breach (Option Holder) :=
  match script.kind with
  | .poolTape => return none
  | .plainPay => do
    match ← paidHash script.asm with
    | some pkh =>
      match Address.ofHash pkh with
      | .ok a => return some (.address a)
      | .error _ => return Holder.hidden? script
    | none => return Holder.hidden? script
  | .tokenCode _ => do
    match ← codeHolder script.asm with
    | some combined =>
      match ← (ofCombined combined).run with
      | .ok a => return some (.address a)
      | .error _ => return some (.controlled (← Partial.text combined 0 Script.hashWidth))
    | none => return Holder.hidden? script
  | .multisigPay => return (Address.scriptHash script.hex).toOption.map .controlled
  | .unknown => return Holder.hidden? script

theorem holder_eq (script : Script) : holder script = .ok (Holder.ofScript? script) := by
  unfold holder Holder.ofScript?
  cases script.kind with
  | plainPay =>
    show (paidHash script.asm >>= _) = _
    rw [bind_of_ok (paidHash_eq _), Holder.paidAddress?]
    cases Script.paidHash? script.asm with
    | none => rfl
    | some pkh =>
      show (match Address.ofHash pkh with | .ok a => _ | .error _ => _) = _
      rw [Option.bind_some]
      cases Address.ofHash pkh with
      | error error => rfl
      | ok a => rfl
  | multisigPay => rfl
  | tokenCode flavor =>
    show (codeHolder script.asm >>= _) = _
    rw [bind_of_ok (codeHolder_eq _)]
    cases hcode : Script.codeHolder? script.asm with
    | none => rfl
    | some combined =>
      have hcombined : Script.isCombined combined = true :=
        Address.isCombined_iff.2 (Script.codeHolder?_eq_some.1 hcode).2
      show ((ofCombined combined).run >>= _) = Except.ok (some (Holder.ofCombined combined))
      rw [bind_of_ok (run_ofCombined combined), Holder.ofCombined]
      cases Address.ofCombined combined with
      | ok a => rfl
      | error error =>
        -- The kind may be wrong, but what was extracted has passed the test of a combined script.
        show (Partial.text combined 0 Script.hashWidth >>= _) = _
        rw [bind_of_ok (text_front_of_combined hcombined)]
        rfl
  | poolTape => rfl
  | unknown => rfl

end ChainExplorer.Checked
