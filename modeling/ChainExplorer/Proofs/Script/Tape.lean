import ChainExplorer.Proofs.Bytes.Hex
import ChainExplorer.Proofs.Results
import ChainExplorer.Proofs.Script.Word
import ChainExplorer.Proofs.Text.Fields
import ChainExplorer.Proofs.Text.Numeral
import ChainExplorer.Script.Tape
import Mathlib.Data.String.Basic

/-!
# Which lines are pool tapes

A tape is read from fixed places of fixed fields. `WellLaid` says what a line has to be for that and
`Carries` what the tape has then, field by field; a line decodes to what it carries exactly if it is
well laid (`decode_exact`), so each failure is due to one of the parts of `WellLaid`. A tape that is
written out carries what it was written from.

Each reader of a field has one lemma that says when it succeeds and with what, and `ofPayload`, which
runs them one after the other, is opened once.
-/

namespace ChainExplorer.PoolTape

open ChainExplorer.Text

/-! ## The format -/

/-- A field that begins with so many hexadecimal digits. -/
def BeginsHex (width : Nat) (field : String) : Prop :=
  width ≤ field.toList.length ∧ ∀ c ∈ field.toList.take width, Hex.Digit c

/-- A decimal numeral, which a plus sign may precede, and its value. -/
def Denotes (field : String) (value : UInt64) : Prop :=
  ∃ digits, (field.toList = digits ∨ field.toList = '+' :: digits) ∧
    digits ≠ [] ∧ (∀ c ∈ digits, isDigit c = true) ∧ ofDigits digits = value.toNat

/-- A line with these fields is a tape. -/
structure WellLaid (fields : List String) : Prop where
  count : 6 ≤ fields.length
  marker : fields[1]? = some "OP_RETURN"
  hashes : ∀ field ∈ fields[2]?, BeginsHex 128 field
  balances : ∀ field ∈ fields[3]?, BeginsHex 48 field
  contract : ∀ field ∈ fields[4]?, ∀ c ∈ field.toList, Hex.Digit c
  rate : 7 ≤ fields.length → ∀ field ∈ fields[5]?, ∃ fee, Denotes field fee

/-- A line with these fields has this tape. -/
structure Carries (fields : List String) (tape : PoolTape) : Prop where
  lpHash : ∀ field ∈ fields[2]?, tape.lpPartialHash.toList = field.toList.take 64
  tokenHash : ∀ field ∈ fields[2]?,
    tape.tokenPartialHash.toList = (field.toList.drop 64).take 64
  lpBalance : ∀ field ∈ fields[3]?,
    tape.lpBalance.toNat = Hex.littleEndian (field.toList.take 16)
  tokenBalance : ∀ field ∈ fields[3]?,
    tape.tokenBalance.toNat = Hex.littleEndian ((field.toList.drop 16).take 16)
  baseBalance : ∀ field ∈ fields[3]?,
    tape.baseBalance.toNat = Hex.littleEndian ((field.toList.drop 32).take 16)
  contract : fields[4]? = some tape.contractId
  rate : tape.feeRate.isSome = true ↔ 7 ≤ fields.length
  fee : ∀ fee ∈ tape.feeRate, ∀ field ∈ fields[5]?, Denotes field fee

/-- A tape that has the widths of the layout, and a tag that is a field. -/
structure Writable (tape : PoolTape) (tag : String) : Prop where
  lpHash : Hex.Numeral 64 tape.lpPartialHash
  tokenHash : Hex.Numeral 64 tape.tokenPartialHash
  contract_ne : tape.contractId ≠ ""
  contract : ∀ c ∈ tape.contractId.toList, Hex.Digit c
  tag : Solid tag.toList

/-! ## Reading a field -/

theorem beginsHex_of_numeral {width : Nat} {field : String} (h : Hex.Numeral width field) :
    BeginsHex width field :=
  ⟨h.1.ge, fun c hc => h.2 c (List.mem_of_mem_take hc)⟩

theorem length_le_utf8ByteSize (s : String) : s.toList.length ≤ s.utf8ByteSize := by
  rw [← String.utf8Len_toList]
  induction s.toList with
  | nil => exact Nat.le_refl 0
  | cons c cs ih =>
    have hc := c.utf8Size_pos
    rw [List.length_cons, String.utf8Len_cons]
    omega

/-- A field that is wide enough in bytes and begins with digits is wide enough in digits: those are
of one byte each. -/
theorem front_eq_ok {name : TapeField} {width : Nat} {field : String} {cs : List Char} :
    front name width field = .ok cs ↔ BeginsHex width field ∧ cs = field.toList.take width := by
  have hsize := length_le_utf8ByteSize field
  rw [front, BeginsHex]
  constructor
  · intro h
    split at h
    · cases h
    · split at h
      · rename_i hhex
        obtain ⟨hlength, hdigits⟩ := Hex.isHexOfLength_iff.1 hhex
        rw [List.length_take] at hlength
        exact ⟨⟨by omega, hdigits⟩, (Except.ok.inj h).symm⟩
      · cases h
  · rintro ⟨⟨hwidth, hdigits⟩, rfl⟩
    rw [if_neg (by omega),
      if_pos (Hex.isHexOfLength_iff.2 ⟨List.length_take_of_le hwidth, hdigits⟩)]

theorem contract_eq_ok {field id : String} :
    contract field = .ok id ↔ (∀ c ∈ field.toList, Hex.Digit c) ∧ id = field := by
  rw [contract, ← Hex.isHex_iff]
  constructor
  · intro h
    split at h
    · rename_i hhex
      exact ⟨hhex, (Except.ok.inj h).symm⟩
    · cases h
  · rintro ⟨hhex, rfl⟩
    exact if_pos hhex

theorem rate_eq_ok {field : String} {fee : UInt64} :
    rate field = .ok fee ↔ Denotes field fee := by
  rw [rate]
  constructor
  · intro h
    split at h
    · rename_i n hn
      obtain rfl := Except.ok.inj h
      obtain ⟨hspells, hbound⟩ := unsigned?_eq_some.1 hn
      rw [← UInt64.toNat_ofNat_of_lt' hbound] at hspells
      exact hspells
    · cases h
  · intro h
    have hread : unsigned? wordBound field.toList = some fee.toNat :=
      unsigned?_eq_some.2 ⟨h, fee.toNat_lt⟩
    rw [hread]
    exact congrArg Except.ok (UInt64.ofNat_toNat)

/-! ## Reading a balance -/

/-- Sixteen digits are read from the end, pair by pair. -/
theorem reversedWord_eq_ok {text : String} (h : Hex.Numeral 16 text) {w : UInt64} :
    Script.reversedWord text = .ok w ↔ w.toNat = Hex.littleEndian text.toList := by
  obtain ⟨bs, hbs, hcount⟩ := Hex.exists_decode (n := 8) h.1 h.2
  have hne : bs ≠ [] := by
    rintro rfl
    cases hcount
  have hbound : Hex.littleEndian text.toList < wordBound := by
    have hlt := Hex.littleEndian_lt text.toList
    rwa [h.1] at hlt
  rw [Hex.littleEndian_of_decode hbs] at hbound ⊢
  rw [Script.reversedWord_of_decode hne hbs, if_pos hbound, Except.ok.injEq, ← UInt64.toNat_inj,
    UInt64.toNat_ofNat_of_lt' hbound, eq_comm]

/-- Sixteen digits are never out of range. -/
theorem exists_toNat_eq_littleEndian {cs : List Char} (h : cs.length ≤ 16) :
    ∃ w : UInt64, w.toNat = Hex.littleEndian cs := by
  have hbound : Hex.littleEndian cs < UInt64.size :=
    Nat.lt_of_lt_of_le (Hex.littleEndian_lt cs) (Nat.pow_le_pow_right (by decide) h)
  exact ⟨_, UInt64.toNat_ofNat_of_lt' hbound⟩

theorem balance_eq_ok {field : String} {slot : Nat} (h : BeginsHex 48 field) (hslot : slot < 3)
    {w : UInt64} : balance (field.toList.take 48) slot = .ok w ↔
      w.toNat = Hex.littleEndian ((field.toList.drop (16 * slot)).take 16) := by
  obtain ⟨hwidth, hdigits⟩ := h
  have hslice : ((field.toList.take 48).drop (slot * balanceWidth)).take balanceWidth
      = (field.toList.drop (16 * slot)).take 16 := by
    rw [balanceWidth, List.drop_take, List.take_take, Nat.mul_comm, Nat.min_eq_left (by omega)]
  have hnumeral : Hex.Numeral 16 (String.ofList ((field.toList.drop (16 * slot)).take 16)) := by
    rw [Hex.Numeral, String.toList_ofList]
    refine ⟨?_, fun c hc => hdigits c ?_⟩
    · rw [List.length_take, List.length_drop]
      omega
    · rw [← hslice] at hc
      exact List.mem_of_mem_drop (List.mem_of_mem_take hc)
  rw [balance, hslice, reversedWord_eq_ok hnumeral, String.toList_ofList]

/-! ## Reading a line -/

theorem mapM_rate_eq_ok {field : Option String} {fee : Option UInt64} :
    field.mapM rate = .ok fee ↔ Option.Rel Denotes field fee := by
  cases field with
  | none => exact ⟨fun h => Except.ok.inj h ▸ .none, fun h => by cases h; rfl⟩
  | some field =>
    have hmap : (some field).mapM rate = rate field >>= fun fee => .ok (some fee) := by
      cases hrate : rate field <;> simp [Option.mapM_some, hrate] <;> rfl
    rw [hmap, bind_eq_ok]
    constructor
    · rintro ⟨fee, hfee, hsome⟩
      obtain rfl := Except.ok.inj hsome
      exact .some (rate_eq_ok.1 hfee)
    · rintro ⟨h⟩
      exact ⟨_, rate_eq_ok.2 h, rfl⟩

/-- The three fields of fixed layout and what is read from them. -/
theorem ofPayload_eq_ok {hashes balances contractId : String} {fee : Option String}
    {tape : PoolTape} : ofPayload hashes balances contractId fee = .ok tape ↔
      (BeginsHex 128 hashes ∧ BeginsHex 48 balances ∧ ∀ c ∈ contractId.toList, Hex.Digit c) ∧
      tape.lpPartialHash.toList = hashes.toList.take 64 ∧
      tape.tokenPartialHash.toList = (hashes.toList.drop 64).take 64 ∧
      tape.lpBalance.toNat = Hex.littleEndian (balances.toList.take 16) ∧
      tape.tokenBalance.toNat = Hex.littleEndian ((balances.toList.drop 16).take 16) ∧
      tape.baseBalance.toNat = Hex.littleEndian ((balances.toList.drop 32).take 16) ∧
      tape.contractId = contractId ∧ Option.Rel Denotes fee tape.feeRate := by
  simp only [ofPayload, bind_eq_ok, front_eq_ok, contract_eq_ok, mapM_rate_eq_ok]
  constructor
  · rintro ⟨_, ⟨hhashes, rfl⟩, _, ⟨hbalances, rfl⟩, _, ⟨hcontract, rfl⟩, rate, hrate, lp, hlp,
      token, htoken, base, hbase, htape⟩
    obtain rfl := Except.ok.inj htape
    refine ⟨⟨hhashes, hbalances, hcontract⟩, ?_, ?_, (balance_eq_ok hbalances (by decide)).1 hlp,
      (balance_eq_ok hbalances (by decide)).1 htoken,
      (balance_eq_ok hbalances (by decide)).1 hbase, rfl, hrate⟩
    · rw [String.toList_ofList, List.take_take]
      rfl
    · rw [String.toList_ofList, List.drop_take]
      rfl
  · rintro ⟨⟨hhashes, hbalances, hcontract⟩, hlpHash, htokenHash, hlp, htoken, hbase, rfl, hrate⟩
    refine ⟨_, ⟨hhashes, rfl⟩, _, ⟨hbalances, rfl⟩, _, ⟨hcontract, rfl⟩, tape.feeRate, hrate,
      _, (balance_eq_ok hbalances (by decide)).2 hlp,
      _, (balance_eq_ok hbalances (by decide)).2 htoken,
      _, (balance_eq_ok hbalances (by decide)).2 hbase, ?_⟩
    have hlpText : String.ofList ((hashes.toList.take 128).take 64) = tape.lpPartialHash := by
      rw [List.take_take, ← String.ofList_toList (s := tape.lpPartialHash), hlpHash]
      rfl
    have htokenText : String.ofList ((hashes.toList.take 128).drop 64) = tape.tokenPartialHash := by
      rw [List.drop_take, ← String.ofList_toList (s := tape.tokenPartialHash), htokenHash]
    exact congrArg Except.ok (PoolTape.mk.injEq .. ▸ ⟨hlpText, htokenText, rfl, rfl, rfl, rfl, rfl⟩)

/-- The sixth field counts where a seventh follows it, and only there. -/
theorem rel_rate_iff {sixth : String} {rest : List String} {fee : Option UInt64} :
    Option.Rel Denotes (if rest.isEmpty then none else some sixth) fee ↔
      (fee.isSome = true ↔ rest ≠ []) ∧ ∀ value ∈ fee, Denotes sixth value := by
  cases rest with
  | nil =>
    constructor
    · rintro ⟨⟩
      exact ⟨by simp, nofun⟩
    · rintro ⟨hnone, -⟩
      obtain rfl : fee = none := by simpa using hnone
      exact .none
  | cons seventh rest =>
    constructor
    · rintro ⟨hvalue⟩
      exact ⟨by simp, fun value hmem => Option.mem_some.1 hmem ▸ hvalue⟩
    · rintro ⟨hsome, hvalue⟩
      obtain ⟨value, rfl⟩ := Option.isSome_iff_exists.1 (hsome.2 (List.cons_ne_nil _ _))
      exact .some (hvalue value rfl)

theorem seven_le_length {first marker hashes balances contractId sixth : String}
    {rest : List String} :
    7 ≤ (first :: marker :: hashes :: balances :: contractId :: sixth :: rest).length ↔
      rest ≠ [] := by
  cases rest <;> simp

theorem ofFields_eq_ok {fields : List String} {tape : PoolTape} :
    ofFields fields = .ok tape ↔ WellLaid fields ∧ Carries fields tape := by
  match fields with
  | first :: marker :: hashes :: balances :: contractId :: sixth :: rest =>
    rw [ofFields]
    constructor
    · intro h
      split at h
      · rename_i hmarker
        obtain ⟨⟨hhashes, hbalances, hcontract⟩, hlpHash, htokenHash, hlp, htoken, hbase, hid,
          hrate⟩ := ofPayload_eq_ok.1 h
        obtain ⟨hsome, hvalue⟩ := rel_rate_iff.1 hrate
        have hfee : rest ≠ [] → ∃ fee, Denotes sixth fee := fun hne =>
          (Option.isSome_iff_exists.1 (hsome.2 hne)).imp fun fee hfee => hvalue fee hfee
        exact ⟨
          { count := by simp
            marker := congrArg some hmarker
            hashes := by simpa using hhashes
            balances := by simpa using hbalances
            contract := by simpa using hcontract
            rate := by
              rintro hcount _ ⟨⟩
              exact hfee (seven_le_length.1 hcount) },
          { lpHash := by simpa using hlpHash
            tokenHash := by simpa using htokenHash
            lpBalance := by simpa using hlp
            tokenBalance := by simpa using htoken
            baseBalance := by simpa using hbase
            contract := congrArg some hid.symm
            rate := hsome.trans seven_le_length.symm
            fee := by simpa using hvalue }⟩
      · cases h
    · rintro ⟨hlaid, hcarries⟩
      rw [if_pos (Option.some.inj hlaid.marker), ofPayload_eq_ok, rel_rate_iff]
      exact ⟨⟨hlaid.hashes _ rfl, hlaid.balances _ rfl, hlaid.contract _ rfl⟩,
        hcarries.lpHash _ rfl, hcarries.tokenHash _ rfl, hcarries.lpBalance _ rfl,
        hcarries.tokenBalance _ rfl, hcarries.baseBalance _ rfl,
        (Option.some.inj hcarries.contract).symm, hcarries.rate.trans seven_le_length,
        fun value hvalue => hcarries.fee value hvalue _ rfl⟩
  | [] | [_] | [_, _] | [_, _, _] | [_, _, _, _] | [_, _, _, _, _] =>
    exact ⟨fun h => by simp [ofFields] at h, fun h => absurd h.1.count (by simp)⟩

/-- A line that is well laid carries a tape: no balance is out of range. -/
theorem WellLaid.exists_carries {fields : List String} (h : WellLaid fields) :
    ∃ tape, Carries fields tape := by
  match fields with
  | first :: marker :: hashes :: balances :: contractId :: sixth :: rest =>
    obtain ⟨lp, hlp⟩ := exists_toNat_eq_littleEndian (List.length_take_le 16 balances.toList)
    obtain ⟨token, htoken⟩ :=
      exists_toNat_eq_littleEndian (List.length_take_le 16 (balances.toList.drop 16))
    obtain ⟨base, hbase⟩ :=
      exists_toNat_eq_littleEndian (List.length_take_le 16 (balances.toList.drop 32))
    have hfee : ∃ fee : Option UInt64, (fee.isSome = true ↔ rest ≠ []) ∧
        ∀ value ∈ fee, Denotes sixth value := by
      by_cases hrest : rest = []
      · exact ⟨none, by simp [hrest], nofun⟩
      · obtain ⟨fee, hfee⟩ := h.rate (seven_le_length.2 hrest) sixth rfl
        exact ⟨some fee, by simp [hrest], fun value hmem => Option.some.inj hmem ▸ hfee⟩
    obtain ⟨fee, hsome, hvalue⟩ := hfee
    exact ⟨
      { lpPartialHash := String.ofList (hashes.toList.take 64)
        tokenPartialHash := String.ofList ((hashes.toList.drop 64).take 64)
        lpBalance := lp
        tokenBalance := token
        baseBalance := base
        contractId
        feeRate := fee },
      { lpHash := by simp
        tokenHash := by simp
        lpBalance := by simpa using hlp
        tokenBalance := by simpa using htoken
        baseBalance := by simpa using hbase
        contract := rfl
        rate := hsome.trans seven_le_length.symm
        fee := by simpa using hvalue }⟩
  | [] | [_] | [_, _] | [_, _, _] | [_, _, _, _] | [_, _, _, _, _] =>
    exact absurd h.count (by simp)

/-! ## Writing a tape -/

theorem not_isBlank_of_digit {c : Char} (h : Hex.Digit c) : isBlank c = false :=
  h.of_forall (p := fun c => isBlank c = false) (by decide)

theorem solid_of_digits {cs : List Char} (hne : cs ≠ []) (h : ∀ c ∈ cs, Hex.Digit c) : Solid cs :=
  ⟨hne, fun c hc => not_isBlank_of_digit (h c hc)⟩

theorem solid_of_numeral {width : Nat} {text : String} (h : Hex.Numeral width text)
    (hwidth : width ≠ 0) : Solid text.toList :=
  solid_of_digits (fun hnil => hwidth (h.1 ▸ congrArg List.length hnil)) h.2

theorem digit_of_isDigit {c : Char} (h : isDigit c = true) : Hex.Digit c := by
  rw [isDigit, digit?] at h
  split at h
  · rename_i hc
    exact .inl hc
  · cases h

theorem denotes_decimal (w : UInt64) : Denotes (decimal w.toNat) w :=
  ⟨toDigits w.toNat, .inl String.toList_ofList, toDigits_ne_nil _,
    fun _ => isDigit_of_mem_toDigits _, ofDigits_toDigits _⟩

theorem numeral_wordDigits (w : UInt64) : Hex.Numeral 16 (String.ofList (wordDigits w)) := by
  have hbytes : (wordBytes w).length = 8 := by
    rw [wordBytes, List.length_map, List.length_range]
  have hnumeral := Hex.numeral_encode (wordBytes w)
  rwa [hbytes] at hnumeral

theorem littleEndian_wordDigits (w : UInt64) : Hex.littleEndian (wordDigits w) = w.toNat :=
  (Hex.littleEndian_encode_range 8 w.toNat).trans (Nat.mod_eq_of_lt w.toNat_lt)

section Writing

variable {tape : PoolTape} {tag : String}

theorem numeral_hashes (h : Writable tape tag) :
    Hex.Numeral 128 (tape.lpPartialHash ++ tape.tokenPartialHash) :=
  h.lpHash.append h.tokenHash

theorem numeral_balances (tape : PoolTape) :
    Hex.Numeral 48 (String.ofList (wordDigits tape.lpBalance ++ wordDigits tape.tokenBalance
      ++ wordDigits tape.baseBalance)) := by
  rw [String.ofList_append, String.ofList_append]
  exact ((numeral_wordDigits _).append (numeral_wordDigits _)).append (numeral_wordDigits _)

theorem solid_of_mem_toFields (h : Writable tape tag) {field : String}
    (hfield : field ∈ tape.toFields tag) : Solid field.toList := by
  simp only [toFields, List.mem_append, List.mem_cons, List.not_mem_nil, or_false] at hfield
  rcases hfield with ((rfl | rfl | rfl | rfl | rfl) | hfee) | rfl
  · decide
  · decide
  · exact solid_of_numeral (numeral_hashes h) (by decide)
  · exact solid_of_numeral (numeral_balances tape) (by decide)
  · exact solid_of_digits (fun hnil => h.contract_ne (String.toList_eq_nil_iff.1 hnil)) h.contract
  · cases hrate : tape.feeRate with
    | none => simp [hrate] at hfee
    | some fee =>
      simp only [hrate, List.mem_singleton] at hfee
      rw [hfee, decimal, String.toList_ofList]
      exact solid_of_digits (toDigits_ne_nil _)
        fun _ hc => digit_of_isDigit (isDigit_of_mem_toDigits _ hc)
  · exact h.tag

theorem words_encode (h : Writable tape tag) : words (encode tape tag) = tape.toFields tag :=
  words_intercalate fun _ => solid_of_mem_toFields h

theorem ofFields_toFields (tape : PoolTape) (tag : String) :
    ofFields (tape.toFields tag) = ofPayload (tape.lpPartialHash ++ tape.tokenPartialHash)
      (String.ofList (wordDigits tape.lpBalance ++ wordDigits tape.tokenBalance
        ++ wordDigits tape.baseBalance))
      tape.contractId (tape.feeRate.map fun fee => decimal fee.toNat) := by
  rw [toFields]
  cases tape.feeRate <;> rfl

/-- **A tape that is written out is read again.** -/
theorem decode_encode (h : Writable tape tag) : decode (encode tape tag) = .ok tape := by
  have hlp := (numeral_wordDigits tape.lpBalance).1
  have htoken := (numeral_wordDigits tape.tokenBalance).1
  have hbase := (numeral_wordDigits tape.baseBalance).1
  rw [String.toList_ofList] at hlp htoken hbase
  rw [decode, words_encode h, ofFields_toFields, ofPayload_eq_ok]
  refine ⟨⟨beginsHex_of_numeral (numeral_hashes h),
    beginsHex_of_numeral (numeral_balances tape), h.contract⟩, ?_⟩
  rw [String.toList_append, String.toList_ofList, List.append_assoc]
  refine ⟨?_, ?_, ?_, ?_, ?_, rfl, ?_⟩
  · rw [List.take_left' h.lpHash.1]
  · rw [List.drop_left' h.lpHash.1, List.take_of_length_le h.tokenHash.1.le]
  · rw [List.take_left' hlp, littleEndian_wordDigits]
  · rw [List.drop_left' hlp, List.take_left' htoken, littleEndian_wordDigits]
  · have hdrop : (wordDigits tape.lpBalance ++ (wordDigits tape.tokenBalance
        ++ wordDigits tape.baseBalance)).drop 32 = wordDigits tape.baseBalance := by
      rw [← List.append_assoc]
      exact List.drop_left' (by rw [List.length_append, hlp, htoken])
    rw [hdrop, List.take_of_length_le hbase.le, littleEndian_wordDigits]
  · cases tape.feeRate with
    | none => exact .none
    | some fee => exact .some (denotes_decimal fee)

end Writing

/-- **The lines that are tapes, and what they say.** The fields of a line are the runs between its
white space. It is a tape exactly if it is well laid, and the tape is what it carries: the fields
fix each part of it. A tape that has the widths of the layout comes back from the line that it is
written as, whatever its balances, its fee rate and its tag are. -/
theorem decode_exact (asm : String) (tape : PoolTape) (tag : String) :
    Laid asm.toList ((words asm).map String.toList) ∧
    (decode asm = .ok tape ↔ WellLaid (words asm) ∧ Carries (words asm) tape) ∧
    ((∃ read, decode asm = .ok read) ↔ WellLaid (words asm)) ∧
    (Writable tape tag → decode (encode tape tag) = .ok tape) := by
  have hread : ∀ {read}, decode asm = .ok read ↔ WellLaid (words asm) ∧ Carries (words asm) read :=
    ofFields_eq_ok
  refine ⟨laid_words asm, hread, ⟨fun ⟨_, h⟩ => (hread.1 h).1, fun h => ?_⟩, decode_encode⟩
  obtain ⟨read, hcarries⟩ := h.exists_carries
  exact ⟨read, hread.2 ⟨h, hcarries⟩⟩

/-- A tape of the newer layout with balances at both ends of their range. -/
def brimming : PoolTape where
  lpPartialHash := String.ofList (List.replicate 64 'a')
  tokenPartialHash := String.ofList (List.replicate 64 'B')
  lpBalance := 0
  tokenBalance := 18446744073709551615
  baseBalance := 256
  contractId := "c0de"
  feeRate := some 25

/-- It is written in seven fields and comes back from them; the tag counts as the seventh. -/
theorem decode_exact_brimming :
    Writable brimming "4c50" ∧
    decode (encode brimming "4c50") = .ok brimming ∧
    WellLaid (words (encode brimming "4c50")) ∧
    Carries (words (encode brimming "4c50")) brimming := by
  have hwritable : Writable brimming "4c50" :=
    { lpHash := Hex.isHexOfLength_iff.1 (by decide)
      tokenHash := Hex.isHexOfLength_iff.1 (by decide)
      contract_ne := by decide
      contract := Hex.isHex_iff.1 (by decide)
      tag := by decide }
  obtain ⟨-, hread, -, hback⟩ := decode_exact (encode brimming "4c50") brimming "4c50"
  exact ⟨hwritable, hback hwritable, hread.1 (hback hwritable)⟩

end ChainExplorer.PoolTape
