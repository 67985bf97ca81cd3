import ChainExplorer.Proofs.Script.Tape

/-!
# Which tapes are classified as tapes

Two readers look for the marker of a data carrier. The classifier takes either spelling of it: the
opcode that ends the run alone, or behind a zero. The decoder of a tape has its fields at fixed
places, so it looks for the opcode in the second place, and at the field in front of it it does not
look at all. A line that it takes for a tape is therefore classified as one exactly if that field is
a zero or the opcode once more (`Opens`); otherwise it is of the kind that its last field makes it
(`kindOfFields_of_wellLaid`).

A script is decoded only if it is classified as a tape. So the scripts with a tape are the lines with
a tape that open like one, and reading a script and reading its line come to the same exactly if no
line is well laid behind another field (`tape_of_script_iff_opens`).
-/

namespace ChainExplorer.Script

/-- The fields that may stand in front of the opcode that ends the run, or are it. -/
def openers : List String := ["OP_RETURN", "0", "OP_0", "OP_FALSE"]

/-- Fields that begin like those of a data carrier. -/
def Opens (fields : List String) : Prop := ∃ first rest, fields = first :: rest ∧ first ∈ openers

theorem opens_cons {first : String} {rest : List String} :
    Opens (first :: rest) ↔ first ∈ openers := by
  constructor
  · rintro ⟨_, _, heq, hfirst⟩
    cases heq
    exact hfirst
  · exact fun hfirst => ⟨first, rest, rfl, hfirst⟩

theorem carriesData_cons {first : String} {rest : List String} :
    carriesData (first :: rest) = true ↔
      first = "OP_RETURN" ∨ first ∈ openers ∧ rest.head? = some "OP_RETURN" := by
  simp only [carriesData, openers, Bool.or_eq_true, Bool.and_eq_true, beq_iff_eq, List.mem_cons,
    List.not_mem_nil, or_false]
  tauto

/-- A plain payment carries no data: it begins with another opcode. -/
theorem isPlainPay_of_carriesData {fields : List String} (h : carriesData fields = true) :
    isPlainPay fields = false := by
  rw [Bool.eq_false_iff]
  intro hplain
  unfold isPlainPay at hplain
  split at hplain
  · exact absurd h (by simp [carriesData])
  · cases hplain

theorem kindOfFields_eq_poolTape {fields : List String} :
    kindOfFields fields = .poolTape ↔ carriesData fields = true := by
  unfold kindOfFields
  constructor
  · intro h
    by_contra hdata
    rw [if_neg hdata] at h
    repeat' split at h
    all_goals cases h
  · intro h
    rw [isPlainPay_of_carriesData h, if_neg Bool.false_ne_true, if_pos h]

end ChainExplorer.Script

namespace ChainExplorer.PoolTape

open ChainExplorer.Script ChainExplorer.Text

section WellLaid

variable {fields : List String}

theorem WellLaid.marked (h : WellLaid fields) :
    ∃ first rest, fields = first :: "OP_RETURN" :: rest := by
  match fields, h.marker with
  | first :: _ :: rest, rfl => exact ⟨first, rest, rfl⟩

theorem WellLaid.carriesData_iff (h : WellLaid fields) :
    carriesData fields = true ↔ Opens fields := by
  obtain ⟨first, rest, rfl⟩ := h.marked
  rw [carriesData_cons, opens_cons]
  constructor
  · rintro (rfl | ⟨hfirst, -⟩)
    · exact List.mem_cons_self
    · exact hfirst
  · exact fun hfirst => .inr ⟨hfirst, rfl⟩

/-- The patterns with another opcode in the second place do not fit a line that is well laid. -/
theorem WellLaid.fits_no_opening (h : WellLaid fields) :
    isPlainPay fields = false ∧ fungibleOpening.isPrefixOf fields = false ∧
      nonFungibleOpening.isPrefixOf fields = false := by
  obtain ⟨first, rest, rfl⟩ := h.marked
  refine ⟨?_, ?_, ?_⟩
  · unfold isPlainPay
    split
    · rename_i heq
      simp at heq
    · rfl
  · simp [fungibleOpening, List.isPrefixOf]
  · simp [nonFungibleOpening, List.isPrefixOf]

/-- **A line that is well laid is a tape if it opens like one, and else what its end makes it.** -/
theorem kindOfFields_of_wellLaid (h : WellLaid fields) :
    (Opens fields → kindOfFields fields = .poolTape) ∧
    (¬ Opens fields → kindOfFields fields =
      if fields.getLast? = some "OP_CHECKMULTISIG" then .multisigPay else .unknown) := by
  refine ⟨fun hopens => kindOfFields_eq_poolTape.2 (h.carriesData_iff.2 hopens), fun hshut => ?_⟩
  obtain ⟨hplain, hfungible, hnonFungible⟩ := h.fits_no_opening
  have hdata : ¬ carriesData fields = true := mt h.carriesData_iff.1 hshut
  rw [kindOfFields, hplain, if_neg Bool.false_ne_true, if_neg hdata, hfungible,
    if_neg Bool.false_ne_true, hnonFungible, if_neg Bool.false_ne_true]

end WellLaid

/-! ## The tape of a script -/

theorem decode_eq_ok {asm : String} {tape : PoolTape} :
    decode asm = .ok tape ↔ WellLaid (words asm) ∧ Carries (words asm) tape := ofFields_eq_ok

/-- A line has a tape exactly if it is well laid. -/
theorem exists_decode {asm : String} : (∃ tape, decode asm = .ok tape) ↔ WellLaid (words asm) := by
  constructor
  · rintro ⟨tape, h⟩
    exact (decode_eq_ok.1 h).1
  · intro h
    obtain ⟨tape, hcarries⟩ := h.exists_carries
    exact ⟨tape, decode_eq_ok.2 ⟨h, hcarries⟩⟩

theorem ofScript_eq_ok {hex asm : String} {tape : PoolTape} :
    ofScript (.ofForms hex asm) = .ok tape ↔ decode asm = .ok tape ∧ Opens (words asm) := by
  have hscript : ofScript (.ofForms hex asm)
      = if classify asm = .poolTape then decode asm else .error .notPoolTape := rfl
  rw [hscript]
  constructor
  · intro h
    split at h
    · rename_i hkind
      have hlaid := (decode_eq_ok.1 h).1
      exact ⟨h, hlaid.carriesData_iff.1 (kindOfFields_eq_poolTape.1 hkind)⟩
    · cases h
  · rintro ⟨h, hopens⟩
    have hkind : classify asm = .poolTape :=
      (kindOfFields_of_wellLaid (decode_eq_ok.1 h).1).1 hopens
    rw [if_pos hkind, h]

/-- **Which tapes are classified as tapes.** For every script:

* it has a tape exactly if its line decodes to that tape and opens like a data carrier;
* a line that decodes is classified as a tape if it opens so, and else as a multisig or as nothing,
  by its last field;
* so whatever decodes is classified as a tape, and the script and its line have the same tapes,
  exactly if the line opens like a data carrier or is not well laid. -/
theorem tape_of_script_iff_opens (hex asm : String) :
    (∀ tape, ofScript (.ofForms hex asm) = .ok tape ↔
      decode asm = .ok tape ∧ Opens (words asm)) ∧
    (∀ tape, decode asm = .ok tape →
      (Opens (words asm) → classify asm = .poolTape) ∧
      (¬ Opens (words asm) → classify asm =
        if (words asm).getLast? = some "OP_CHECKMULTISIG" then .multisigPay else .unknown)) ∧
    ((∀ tape, decode asm = .ok tape → classify asm = .poolTape) ↔
      (Opens (words asm) ∨ ¬ WellLaid (words asm))) ∧
    ((∀ tape, ofScript (.ofForms hex asm) = .ok tape ↔ decode asm = .ok tape) ↔
      (Opens (words asm) ∨ ¬ WellLaid (words asm))) := by
  have hkind (tape : PoolTape) (h : decode asm = .ok tape) :=
    kindOfFields_of_wellLaid (decode_eq_ok.1 h).1
  refine ⟨fun tape => ofScript_eq_ok, hkind, ⟨fun hall => ?_, ?_⟩, ⟨fun hall => ?_, ?_⟩⟩
  · by_cases hlaid : WellLaid (words asm)
    · obtain ⟨tape, htape⟩ := exists_decode.2 hlaid
      exact .inl (hlaid.carriesData_iff.1 (kindOfFields_eq_poolTape.1 (hall tape htape)))
    · exact .inr hlaid
  · rintro (hopens | hlaid) tape htape
    · exact (hkind tape htape).1 hopens
    · exact absurd (exists_decode.1 ⟨tape, htape⟩) hlaid
  · by_cases hlaid : WellLaid (words asm)
    · obtain ⟨tape, htape⟩ := exists_decode.2 hlaid
      exact .inl (ofScript_eq_ok.1 ((hall tape).2 htape)).2
    · exact .inr hlaid
  · rintro (hopens | hlaid) tape
    · rw [ofScript_eq_ok]
      exact ⟨fun h => h.1, fun h => ⟨h, hopens⟩⟩
    · have hnone : decode asm ≠ .ok tape := fun h => hlaid (exists_decode.1 ⟨tape, h⟩)
      rw [ofScript_eq_ok]
      exact ⟨fun h => h.1, fun h => absurd h hnone⟩

/-! ## A tape behind another field -/

theorem numeral_replicate {c : Char} (h : Hex.Digit c) (width : Nat) :
    Hex.Numeral width (String.ofList (List.replicate width c)) := by
  rw [Hex.Numeral, String.toList_ofList]
  exact ⟨List.length_replicate, fun d hd => List.eq_of_mem_replicate hd ▸ h⟩

/-- So many zeros. -/
def zeros (width : Nat) : String := .ofList (List.replicate width '0')

theorem numeral_zeros (width : Nat) : Hex.Numeral width (zeros width) :=
  numeral_replicate (Hex.isDigit_iff.1 (by decide)) width

/-- The fields of an empty pool's tape behind a field of one's choice. -/
def behind (first : String) : List String :=
  [first, "OP_RETURN", zeros 128, zeros 48, "c0de", "4c50"]

/-- The line of those fields. -/
def behindAsm (first : String) : String := " ".intercalate (behind first)

theorem wellLaid_behind (first : String) : WellLaid (behind first) where
  count := by simp [behind]
  marker := rfl
  hashes := fun _ hfield => Option.some.inj hfield ▸ beginsHex_of_numeral (numeral_zeros 128)
  balances := fun _ hfield => Option.some.inj hfield ▸ beginsHex_of_numeral (numeral_zeros 48)
  contract := fun _ hfield => Option.some.inj hfield ▸ Hex.isHex_iff.1 (by decide)
  rate := fun hcount => absurd hcount (by simp [behind])

theorem words_behindAsm {first : String} (h : Solid first.toList) :
    words (behindAsm first) = behind first := by
  refine words_intercalate fun field hfield => ?_
  simp only [behind, List.mem_cons, List.not_mem_nil, or_false] at hfield
  rcases hfield with rfl | rfl | rfl | rfl | rfl | rfl
  · exact h
  · decide
  · exact solid_of_numeral (numeral_zeros 128) (by decide)
  · exact solid_of_numeral (numeral_zeros 48) (by decide)
  · decide
  · decide

/-- Behind a zero, a tape is the tape of its script. -/
theorem tape_of_script_iff_opens_zero : ∃ tape, decode (behindAsm "OP_0") = .ok tape ∧
    ofScript (.ofForms "006a" (behindAsm "OP_0")) = .ok tape ∧
    classify (behindAsm "OP_0") = .poolTape := by
  have hwords : words (behindAsm "OP_0") = behind "OP_0" := words_behindAsm (by decide)
  have hopens : Opens (words (behindAsm "OP_0")) := hwords ▸ opens_cons.2 (by decide)
  obtain ⟨tape, htape⟩ := exists_decode.2 (hwords ▸ wellLaid_behind "OP_0")
  obtain ⟨hscript, hkind, -, -⟩ := tape_of_script_iff_opens "006a" (behindAsm "OP_0")
  exact ⟨tape, htape, (hscript tape).2 ⟨htape, hopens⟩, (hkind tape htape).1 hopens⟩

/-- Behind a one, it is a tape as well, but its script is of no known kind and has none. -/
theorem tape_of_no_known_kind : (∃ tape, decode (behindAsm "OP_1") = .ok tape) ∧
    classify (behindAsm "OP_1") = .unknown ∧
    ofScript (.ofForms "516a" (behindAsm "OP_1")) = .error .notPoolTape := by
  have hwords : words (behindAsm "OP_1") = behind "OP_1" := words_behindAsm (by decide)
  have hshut : ¬ Opens (behind "OP_1") := mt opens_cons.1 (by decide)
  have hkind : classify (behindAsm "OP_1") = .unknown := by
    rw [classify, hwords, (kindOfFields_of_wellLaid (wellLaid_behind "OP_1")).2 hshut]
    rfl
  refine ⟨exists_decode.2 (hwords ▸ wellLaid_behind "OP_1"), hkind, ?_⟩
  rw [ofScript, Script.ofForms, hkind]
  rfl

end ChainExplorer.PoolTape
