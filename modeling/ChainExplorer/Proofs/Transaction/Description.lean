import ChainExplorer.Proofs.History.OutPoint
import ChainExplorer.Proofs.Script.Credit

/-!
# What a description says of a transaction

A description may leave out, misspell or overstate any of its parts, and what is read of it is
relied upon by everything after it without another look: records, stores and lookups go by lower
case ids, numbered outputs and classified scripts. `Described` says part by part what a transaction
is read as, and reading is that and nothing else. There is one for every description whose parts are
all good, and none for any other; and as an id is spelled out in lower case whatever its letters
were, two descriptions that differ in the spelling of ids are read alike
(`read_whole_or_not_at_all`).
-/

namespace ChainExplorer.Transaction

variable {raw raw' : Json}

/-! ## Ids and their letters -/

/-- A hexadecimal digit that is no capital letter. -/
def SmallDigit (c : Char) : Prop := '0' ≤ c ∧ c ≤ '9' ∨ 'a' ≤ c ∧ c ≤ 'f'

instance (c : Char) : Decidable (SmallDigit c) := inferInstanceAs (Decidable (_ ∨ _))

/-- An id as it is kept: sixty-four digits, none of them a capital letter. -/
def KeptId (txid : String) : Prop :=
  txid.toList.length = 64 ∧ ∀ c ∈ txid.toList, SmallDigit c

section Letters

variable {c : Char} {text : String}

theorem SmallDigit.digit (h : SmallDigit c) : Hex.Digit c := by
  rcases h with h | h
  · exact .inl h
  · exact .inr (.inl h)

theorem SmallDigit.toLower_eq (h : SmallDigit c) : c.toLower = c :=
  h.digit.of_forall (p := fun c => SmallDigit c → c.toLower = c) (by decide) h

theorem smallDigit_toLower (h : Hex.Digit c) : SmallDigit c.toLower :=
  h.of_forall (p := fun c => SmallDigit c.toLower) (by decide)

theorem isId_iff : isId text = true ↔ Hex.Numeral 64 text := Hex.isHexOfLength_iff

theorem isId_of_alike {other : String} (h : Script.Alike text other) : isId text = isId other := by
  have hchars : ∀ text : String,
      isId text = Hex.isHexOfLength idWidth (text.toList.map Char.toLower) := by
    intro text
    rw [isId, Hex.isHexOfLength, Hex.isHexOfLength, Hex.isHex, Hex.isHex, List.length_map,
      List.all_map]
    congr 2
    exact funext fun c => (Hex.isDigit_toLower c).symm
  rw [hchars text, hchars other, Script.alike_iff.1 h]

theorem KeptId.numeral (h : KeptId text) : Hex.Numeral 64 text :=
  ⟨h.1, fun c hc => (h.2 c hc).digit⟩

theorem KeptId.toLower_eq (h : KeptId text) : text.toLower = text := by
  rw [← String.toList_inj, Address.toList_toLower]
  exact (List.map_congr_left fun c hc => (h.2 c hc).toLower_eq).trans (List.map_id _)

theorem keptId_toLower (h : Hex.Numeral 64 text) : KeptId text.toLower := by
  rw [KeptId, Address.toList_toLower, List.length_map]
  refine ⟨h.1, fun c hc => ?_⟩
  obtain ⟨d, hd, rfl⟩ := List.mem_map.1 hc
  exact smallDigit_toLower (h.2 d hd)

end Letters

/-- The member is a text that spells this id, in capitals or not. -/
def Names (value : Option Json) (txid : String) : Prop :=
  KeptId txid ∧ ∃ text, value = some (.string text) ∧ Script.Alike txid text

theorem bind_string?_eq_some {value : Option Json} {text : String} :
    value.bind Json.string? = some text ↔ value = some (.string text) := by
  simp only [Option.bind_eq_some_iff, Json.string?_eq_some]
  exact ⟨fun ⟨_, hvalue, h⟩ => h ▸ hvalue, fun h => ⟨_, h, rfl⟩⟩

/-- **An id is read if the text spells one**, in lower case. -/
theorem readId_eq_ok_iff_names {field txid : String} {value : Option Json} :
    readId field value = .ok txid ↔ Names value txid := by
  rw [readId_eq_ok, Names]
  simp only [bind_string?_eq_some]
  constructor
  · rintro ⟨text, hvalue, hid, rfl⟩
    rw [Address.ofList_map_lower (isId_iff.1 hid)]
    have hkept := keptId_toLower (isId_iff.1 hid)
    exact ⟨hkept, text, hvalue, hkept.toLower_eq⟩
  · rintro ⟨hkept, text, hvalue, halike⟩
    have hid : isId text = true := by
      rw [← isId_of_alike halike, isId_iff]
      exact hkept.numeral
    refine ⟨text, hvalue, hid, ?_⟩
    rw [Address.ofList_map_lower (isId_iff.1 hid), ← hkept.toLower_eq]
    exact halike.symm

/-! ## Parts -/

theorem readArray_eq_ok {key : String} {items : List Json} :
    readArray raw key = .ok items ↔ raw.get? key = some (.array items) := by
  rw [readArray, require_eq_ok, Option.bind_eq_some_iff]
  constructor
  · rintro ⟨value, hvalue, h⟩
    cases value <;> simp_all [Json.array?]
  · intro h
    exact ⟨_, h, rfl⟩

theorem readWord32_eq_ok_iff {field : String} {value : Option Json} {w : UInt32} :
    readWord32 field value = .ok w ↔ value = some (.int w.toNat) := by
  cases value with
  | none => exact ⟨nofun, nofun⟩
  | some value => rw [readWord32_eq_ok, Option.some.injEq]

theorem readValue_eq_ok {units : UInt64} : readValue raw = .ok units ↔
    ∃ amount, raw.get? "value" = some amount ∧ Amount.ofJson amount = .ok units := by
  rw [readValue, bind_eq_ok]
  simp only [require_eq_ok]
  apply exists_congr
  intro amount
  rw [and_congr_right_iff]
  intro _
  cases Amount.ofJson amount with
  | ok units =>
    exact ⟨fun h => congrArg Except.ok (Except.ok.inj h),
      fun h => congrArg Except.ok (Except.ok.inj h)⟩
  | error fault => exact ⟨nofun, nofun⟩

theorem readScript_eq_ok {script : Script} : readScript raw = .ok script ↔
    ∃ member hex, raw.get? "scriptPubKey" = some member ∧
      member.get? "hex" = some (.string hex) ∧
      script = .ofForms hex (((member.get? "asm").bind Json.string?).getD "") := by
  simp only [readScript, bind_eq_ok, require_eq_ok, bind_string?_eq_some]
  constructor
  · rintro ⟨member, hmember, hex, hhex, h⟩
    exact ⟨member, hex, hmember, hhex, (Except.ok.inj h).symm⟩
  · rintro ⟨member, hex, hmember, hhex, rfl⟩
    exact ⟨member, hmember, hex, hhex, rfl⟩

/-- What an input is read as. -/
structure InputOf (item : Json) (input : Option OutPoint) : Prop where
  coinbase : input = none ↔ item.get? "coinbase" ≠ none
  txid : ∀ point, input = some point → Names (item.get? "txid") point.txid
  vout : ∀ point, input = some point → item.get? "vout" = some (.int point.vout.toNat)

theorem readInput_eq_ok {item : Json} {input : Option OutPoint} :
    readInput item = .ok input ↔ InputOf item input := by
  rw [readInput]
  split
  · rename_i hcoinbase
    rw [Option.isSome_iff_ne_none] at hcoinbase
    constructor
    · intro h
      obtain rfl := Except.ok.inj h
      exact ⟨iff_of_true rfl hcoinbase, nofun, nofun⟩
    · intro h
      rw [h.coinbase.2 hcoinbase]
      rfl
  · rename_i hcoinbase
    rw [Option.not_isSome_iff_eq_none] at hcoinbase
    simp only [bind_eq_ok, readId_eq_ok_iff_names, readWord32_eq_ok_iff]
    constructor
    · rintro ⟨txid, htxid, vout, hvout, h⟩
      obtain rfl := Except.ok.inj h
      refine ⟨iff_of_false nofun (not_not.2 hcoinbase), ?_, ?_⟩
      · intro point hpoint
        obtain rfl := Option.some.inj hpoint
        exact htxid
      · intro point hpoint
        obtain rfl := Option.some.inj hpoint
        exact hvout
    · intro h
      cases input with
      | none => exact absurd hcoinbase (h.coinbase.1 rfl)
      | some point => exact ⟨point.txid, h.txid point rfl, point.vout, h.vout point rfl, rfl⟩

/-- What the output at a position is read as. -/
structure OutputOf (item : Json) (position : Nat) (output : TxOutput) : Prop where
  value : ∃ amount, item.get? "value" = some amount ∧ Amount.ofJson amount = .ok output.value
  index : Numbered item position output.index.toNat
  script : ∃ member, item.get? "scriptPubKey" = some member ∧
    member.get? "hex" = some (.string output.script.hex) ∧
    output.script.asm = ((member.get? "asm").bind Json.string?).getD ""
  kind : output.script.kind = Script.classify output.script.asm

theorem readOutput_eq_ok_iff {item : Json} {position : Nat} {output : TxOutput} :
    readOutput item position = .ok output ↔ OutputOf item position output := by
  rw [readOutput_eq_ok, readValue_eq_ok, readIndex_eq_ok, readScript_eq_ok]
  constructor
  · rintro ⟨hvalue, hindex, member, hex, hmember, hhex, hscript⟩
    refine ⟨hvalue, hindex, ⟨member, hmember, ?_, ?_⟩, ?_⟩
    · rw [hscript]
      exact hhex
    · rw [hscript]
      rfl
    · rw [hscript]
      rfl
  · rintro ⟨hvalue, hindex, ⟨member, hmember, hhex, hasm⟩, hkind⟩
    refine ⟨hvalue, hindex, member, _, hmember, hhex, ?_⟩
    rw [← hasm, Script.ofForms, ← hkind]

/-- **What a transaction is read as**, with everything that is relied upon afterwards. -/
structure Described (raw : Json) (tx : Transaction) : Prop where
  txid : Names (raw.get? "txid") tx.txid
  inputs : ∃ items, raw.get? "vin" = some (.array items) ∧ List.Forall₂ InputOf items tx.inputs
  outputs : ∃ items, raw.get? "vout" = some (.array items) ∧
    List.Forall₂ (fun item output => OutputOf item.1 item.2 output) items.zipIdx tx.outputs
  blockHash : tx.blockHash = (raw.get? "blockhash").bind Json.string?
  confirmations : tx.confirmations = (word? raw "confirmations").getD 0
  time : tx.time = if tx.isConfirmed then ((word? raw "blocktime").or (word? raw "time")).getD 0
    else 0

theorem readTime_eq (raw : Json) (tx : Transaction) : readTime raw tx.confirmations
    = if tx.isConfirmed then ((word? raw "blocktime").or (word? raw "time")).getD 0 else 0 := by
  rw [readTime, isConfirmed]
  simp only [decide_eq_true_eq]

theorem ofJson_eq_ok_iff_described {tx : Transaction} :
    ofJson raw = .ok tx ↔ Described raw tx := by
  simp only [ofJson_eq_ok, readArray_eq_ok, readId_eq_ok_iff_names, readInput_eq_ok,
    readOutput_eq_ok_iff, readTime_eq]
  constructor
  · rintro ⟨ins, outs, hins, houts, htxid, hblock, hconfirmations, htime, hinputs, houtputs⟩
    exact ⟨htxid, ⟨ins, hins, hinputs⟩, ⟨outs, houts, houtputs⟩, hblock, hconfirmations, htime⟩
  · rintro ⟨htxid, ⟨ins, hins, hinputs⟩, ⟨outs, houts, houtputs⟩, hblock, hconfirmations, htime⟩
    exact ⟨ins, outs, hins, houts, htxid, hblock, hconfirmations, htime, hinputs, houtputs⟩

/-! ## What can be read -/

/-- The member is a text of sixty-four hexadecimal digits. -/
def HasId (value : Option Json) : Prop :=
  ∃ text, value = some (.string text) ∧ Hex.Numeral 64 text

/-- An input that can be read: it takes nothing, or an output of a transaction. -/
def GoodInput (item : Json) : Prop :=
  item.get? "coinbase" ≠ none ∨
    HasId (item.get? "txid") ∧ ∃ n : Nat, item.get? "vout" = some (.int n) ∧ n < halfWordBound

/-- An output that can be read. -/
structure GoodOutput (item : Json) (position : Nat) : Prop where
  value : ∃ amount units, item.get? "value" = some amount ∧ Amount.ofJson amount = .ok units
  index : ∃ n, Numbered item position n ∧ n < halfWordBound
  script : ∃ member hex, item.get? "scriptPubKey" = some member ∧
    member.get? "hex" = some (.string hex)

/-- A description that can be read, because every part of it can. -/
structure Good (raw : Json) : Prop where
  txid : HasId (raw.get? "txid")
  inputs : ∃ items, raw.get? "vin" = some (.array items) ∧ ∀ item ∈ items, GoodInput item
  outputs : ∃ items, raw.get? "vout" = some (.array items) ∧
    ∀ item ∈ items.zipIdx, GoodOutput item.1 item.2

theorem exists_names {value : Option Json} : (∃ txid, Names value txid) ↔ HasId value := by
  have hread : ∀ txid, Names value txid ↔ readId "txid" value = .ok txid :=
    fun _ => readId_eq_ok_iff_names.symm
  simp only [hread, readId_eq_ok, bind_string?_eq_some, isId_iff]
  constructor
  · rintro ⟨txid, text, hvalue, hid, -⟩
    exact ⟨text, hvalue, hid⟩
  · rintro ⟨text, hvalue, hid⟩
    exact ⟨_, text, hvalue, hid, rfl⟩

theorem exists_word32 {n : Nat} (hn : n < halfWordBound) : ∃ w : UInt32, w.toNat = n :=
  ⟨UInt32.ofNat n, UInt32.toNat_ofNat_of_lt' hn⟩

theorem exists_inputOf {item : Json} : (∃ input, InputOf item input) ↔ GoodInput item := by
  by_cases hcoinbase : item.get? "coinbase" = none
  · constructor
    · rintro ⟨input, h⟩
      cases input with
      | none => exact absurd hcoinbase (h.coinbase.1 rfl)
      | some point =>
        exact .inr ⟨exists_names.1 ⟨_, h.txid point rfl⟩, _, h.vout point rfl, point.vout.toNat_lt⟩
    · rintro (h | ⟨hid, n, hvout, hn⟩)
      · exact absurd hcoinbase h
      · obtain ⟨txid, htxid⟩ := exists_names.2 hid
        obtain ⟨vout, rfl⟩ := exists_word32 hn
        refine ⟨some ⟨txid, vout⟩, iff_of_false nofun (not_not.2 hcoinbase), ?_, ?_⟩
        · intro point hpoint
          obtain rfl := Option.some.inj hpoint
          exact htxid
        · intro point hpoint
          obtain rfl := Option.some.inj hpoint
          exact hvout
  · exact iff_of_true ⟨none, iff_of_true rfl hcoinbase, nofun, nofun⟩ (.inl hcoinbase)

theorem exists_outputOf {item : Json} {position : Nat} :
    (∃ output, OutputOf item position output) ↔ GoodOutput item position := by
  constructor
  · rintro ⟨output, ⟨amount, hvalue⟩, hindex, ⟨member, hmember, hhex, -⟩, -⟩
    exact ⟨⟨amount, _, hvalue⟩, ⟨_, hindex, output.index.toNat_lt⟩, member, _, hmember, hhex⟩
  · rintro ⟨⟨amount, units, hvalue⟩, ⟨n, hindex, hn⟩, member, hex, hmember, hhex⟩
    obtain ⟨index, rfl⟩ := exists_word32 hn
    exact ⟨⟨units, index, .ofForms hex _⟩, ⟨amount, hvalue⟩, hindex, ⟨member, hmember, hhex, rfl⟩,
      rfl⟩

theorem exists_forall₂ {α β : Type} {R : α → β → Prop} {xs : List α} :
    (∃ ys, List.Forall₂ R xs ys) ↔ ∀ x ∈ xs, ∃ y, R x y := by
  induction xs with
  | nil => simp
  | cons x xs ih =>
    rw [List.forall_mem_cons, ← ih]
    simp only [List.forall₂_cons_left_iff]
    constructor
    · rintro ⟨_, y, ys, hy, hys, -⟩
      exact ⟨⟨y, hy⟩, ys, hys⟩
    · rintro ⟨⟨y, hy⟩, ys, hys⟩
      exact ⟨_, y, ys, hy, hys, rfl⟩

theorem exists_ofJson_eq_ok : (∃ tx, ofJson raw = .ok tx) ↔ Good raw := by
  simp only [ofJson_eq_ok_iff_described]
  constructor
  · rintro ⟨tx, htxid, ⟨ins, hins, hinputs⟩, ⟨outs, houts, houtputs⟩, -, -, -⟩
    refine ⟨exists_names.1 ⟨_, htxid⟩, ⟨ins, hins, fun item hitem => ?_⟩, outs, houts,
      fun item hitem => ?_⟩
    · exact exists_inputOf.1 (exists_forall₂.1 ⟨_, hinputs⟩ item hitem)
    · exact exists_outputOf.1 (exists_forall₂.1 ⟨_, houtputs⟩ item hitem)
  · rintro ⟨hid, ⟨ins, hins, hinputs⟩, outs, houts, houtputs⟩
    obtain ⟨txid, htxid⟩ := exists_names.2 hid
    obtain ⟨inputs, hinputs⟩ := exists_forall₂.2 fun item hitem =>
      exists_inputOf.2 (hinputs item hitem)
    obtain ⟨outputs, houtputs⟩ := exists_forall₂.2 fun item hitem =>
      exists_outputOf.2 (houtputs item hitem)
    refine ⟨⟨txid, _, (word? raw "confirmations").getD 0,
      readTime raw ((word? raw "confirmations").getD 0), inputs, outputs⟩,
      htxid, ⟨ins, hins, hinputs⟩, ⟨outs, houts, houtputs⟩, rfl, rfl, ?_⟩
    rw [← readTime_eq]

/-! ## Ids in other letters -/

/-- One id in two spellings, or the same member, whatever that is. -/
def RespelledId (value value' : Option Json) : Prop :=
  value = value' ∨
    ∃ s t, value = some (.string s) ∧ value' = some (.string t) ∧ Script.Alike s t

/-- Two inputs that differ in nothing but the spelling of the id. -/
structure RespelledInput (item item' : Json) : Prop where
  same : ∀ key, key ≠ "txid" → item.get? key = item'.get? key
  txid : RespelledId (item.get? "txid") (item'.get? "txid")

/-- Two descriptions that differ in nothing but the spelling of their ids. -/
structure Respelled (raw raw' : Json) : Prop where
  same : ∀ key, key ≠ "txid" → key ≠ "vin" → raw.get? key = raw'.get? key
  txid : RespelledId (raw.get? "txid") (raw'.get? "txid")
  inputs : raw.get? "vin" = raw'.get? "vin" ∨
    ∃ items items', raw.get? "vin" = some (.array items) ∧
      raw'.get? "vin" = some (.array items') ∧ List.Forall₂ RespelledInput items items'

/-- Two readings that succeed with related results, or fail for the same reason. What is no id at
all is quoted as it is spelled. -/
inductive SameReading {α β : Type} (R : α → β → Prop) : Read α → Read β → Prop where
  | ok {a : α} {b : β} (h : R a b) : SameReading R (.ok a) (.ok b)
  | fault (fault : TransactionFault) : SameReading R (.error fault) (.error fault)
  | invalidId (field : String) {s t : String} (h : Script.Alike s t) (hs : isId s = false)
      (ht : isId t = false) :
      SameReading R (.error (.invalidId field s)) (.error (.invalidId field t))

namespace SameReading

variable {α β γ δ : Type} {R : α → β → Prop}

theorem refl (x : Read α) : SameReading Eq x x := by
  cases x with
  | error cause => exact .fault cause
  | ok a => exact .ok rfl

theorem bind {S : γ → δ → Prop} {x : Read α} {y : Read β} {f : α → Read γ} {g : β → Read δ}
    (h : SameReading R x y) (hnext : ∀ a b, R a b → SameReading S (f a) (g b)) :
    SameReading S (x >>= f) (y >>= g) := by
  cases h with
  | ok h => exact hnext _ _ h
  | fault cause => exact .fault cause
  | invalidId field h hs ht => exact .invalidId field h hs ht

theorem mapM {f : α → Read γ} {g : β → Read γ} {xs : List α} {ys : List β}
    (h : List.Forall₂ R xs ys) (hstep : ∀ a b, R a b → SameReading Eq (f a) (g b)) :
    SameReading Eq (xs.mapM f) (ys.mapM g) := by
  induction h with
  | nil => exact refl _
  | cons hhead _ ih =>
    rw [List.mapM_cons, List.mapM_cons]
    refine (hstep _ _ hhead).bind fun c d hcd => ih.bind fun cs ds hcds => ?_
    rw [hcd, hcds]
    exact refl _

end SameReading

theorem sameReading_readId {value value' : Option Json} (h : RespelledId value value')
    (field : String) : SameReading Eq (readId field value) (readId field value') := by
  rcases h with rfl | ⟨s, t, rfl, rfl, hsame⟩
  · exact .refl _
  · have hread : ∀ text, readId field (some (.string text)) = if isId text
        then .ok (String.ofList (text.toList.map Hex.lower))
        else .error (.invalidId field text) := fun _ => rfl
    rw [hread, hread]
    have hid := isId_of_alike hsame
    cases ht : isId t with
    | false =>
      rw [ht] at hid
      rw [hid]
      exact .invalidId field hsame hid ht
    | true =>
      rw [ht] at hid
      rw [hid, Address.ofList_map_lower (isId_iff.1 hid), Address.ofList_map_lower (isId_iff.1 ht),
        hsame]
      exact .refl _

theorem sameReading_readInput {item item' : Json} (h : RespelledInput item item') :
    SameReading Eq (readInput item) (readInput item') := by
  rw [readInput, readInput, h.same "coinbase" (by decide), h.same "vout" (by decide)]
  split
  · exact .refl _
  · refine (sameReading_readId h.txid _).bind ?_
    rintro txid _ rfl
    exact .refl _

theorem RespelledInput.refl (item : Json) : RespelledInput item item :=
  ⟨fun _ _ => rfl, .inl rfl⟩

theorem sameReading_readArray_vin (h : Respelled raw raw') :
    SameReading (List.Forall₂ RespelledInput) (readArray raw "vin") (readArray raw' "vin") := by
  rcases h.inputs with hsame | ⟨items, items', hitems, hitems', hall⟩
  · have hread : readArray raw "vin" = readArray raw' "vin" := by
      rw [readArray, readArray, hsame]
    rw [hread]
    cases readArray raw' "vin" with
    | error cause => exact .fault cause
    | ok items => exact .ok (List.forall₂_same.2 fun item _ => .refl item)
  · rw [readArray_eq_ok.2 hitems, readArray_eq_ok.2 hitems']
    exact .ok hall

/-- **The spelling of ids makes no difference.** -/
theorem sameReading_ofJson (h : Respelled raw raw') :
    SameReading Eq (ofJson raw) (ofJson raw') := by
  have hword : ∀ key, key ≠ "txid" → key ≠ "vin" → word? raw key = word? raw' key := by
    intro key htxid hvin
    rw [word?, word?, h.same key htxid hvin]
  have htime : ∀ confirmations, readTime raw confirmations = readTime raw' confirmations := by
    intro confirmations
    rw [readTime, readTime, hword "blocktime" (by decide) (by decide),
      hword "time" (by decide) (by decide)]
  have houtputs : readArray raw "vout" = readArray raw' "vout" := by
    rw [readArray, readArray, h.same "vout" (by decide) (by decide)]
  rw [ofJson, ofJson]
  simp only [hword "confirmations" (by decide) (by decide), htime, houtputs,
    h.same "blockhash" (by decide) (by decide)]
  refine (sameReading_readId h.txid _).bind ?_
  rintro txid _ rfl
  refine (sameReading_readArray_vin h).bind fun ins ins' hins => ?_
  refine (SameReading.refl _).bind ?_
  rintro outs _ rfl
  refine (SameReading.mapM hins fun _ _ => sameReading_readInput).bind ?_
  rintro inputs _ rfl
  exact .refl _

/-! ## The result -/

/-- **A transaction is read whole or not at all.** What is read is described part by part: an output
or none for every input and an output for every output, in their order, ids in lower case and
sixty-four digits long, nothing taken exactly where there is a `coinbase` member, kinds as the
disassembly shows them, numbers as they are declared or else by position, and no time outside a
block. The case of the letters of ids makes no difference, and it takes every single part to be
good for anything to be read. -/
theorem read_whole_or_not_at_all (raw : Json) :
    (∀ tx, ofJson raw = .ok tx ↔ Described raw tx) ∧
    (∀ raw', Respelled raw raw' → SameReading Eq (ofJson raw) (ofJson raw')) ∧
    ((∃ tx, ofJson raw = .ok tx) ↔ Good raw) :=
  ⟨fun _ => ofJson_eq_ok_iff_described, fun _ => sameReading_ofJson, exists_ofJson_eq_ok⟩

/-- A description of a transaction in a block. It makes two outputs, one with a number of its own,
and takes its own second one. -/
def spelled (txid : String) : Json :=
  .object [("txid", .string txid), ("confirmations", .int 3), ("time", .int 1700000000),
    ("vin", .array [.object [("txid", .string txid), ("vout", .int 1)]]),
    ("vout", .array [
      .object [("value", .string "12.5"), ("scriptPubKey", .object [("hex", .string "6a")])],
      .object [("value", .int 3), ("n", .int 7),
        ("scriptPubKey", .object [("hex", .string "51"), ("asm", .string "OP_1")])]])]

def loudId : String := String.ofList (List.replicate 64 'A')

theorem read_whole_or_not_at_all_spelled :
    Respelled (spelled loudId) (spelled History.plainId) ∧
      SameReading Eq (ofJson (spelled loudId)) (ofJson (spelled History.plainId)) ∧
      ∃ tx, ofJson (spelled loudId) = .ok tx ∧ tx.inputs = [some ⟨History.plainId, 1⟩] ∧
        tx.outputs = [⟨12500000, 0, .ofForms "6a" ""⟩, ⟨3000000, 7, .ofForms "51" "OP_1"⟩] ∧
        tx.confirmations = 3 ∧ tx.time = 1700000000 ∧
        Described (spelled loudId) tx ∧ Good (spelled loudId) := by
  have hletters : Script.Alike loudId History.plainId := by
    have hloud : loudId.toList = List.replicate 64 'A' := String.toList_ofList
    have hplain : History.plainId.toList = List.replicate 64 'a' := String.toList_ofList
    have hletter : 'A'.toLower = 'a'.toLower := by decide
    rw [Script.alike_iff, hloud, hplain, List.map_replicate, List.map_replicate, hletter]
  have hid : RespelledId (some (.string loudId)) (some (.string History.plainId)) :=
    .inr ⟨_, _, rfl, rfl, hletters⟩
  have hrespelled : Respelled (spelled loudId) (spelled History.plainId) := by
    refine ⟨fun key htxid hvin => ?_, hid,
      .inr ⟨_, _, rfl, rfl, .cons ⟨fun key htxid => ?_, hid⟩ .nil⟩⟩
    · simp [spelled, Json.get?, List.find?_cons, htxid.symm, hvin.symm]
    · simp [Json.get?, List.find?_cons, htxid.symm]
  obtain ⟨hread, halike, hgood⟩ := read_whole_or_not_at_all (spelled loudId)
  have hok : ofJson (spelled loudId)
      = .ok ⟨History.plainId, none, 3, 1700000000, [some ⟨History.plainId, 1⟩],
        [⟨12500000, 0, .ofForms "6a" ""⟩, ⟨3000000, 7, .ofForms "51" "OP_1"⟩]⟩ := rfl
  exact ⟨hrespelled, halike _ hrespelled, _, hok, rfl, rfl, rfl, rfl, (hread _).1 hok,
    hgood.1 ⟨_, hok⟩⟩

end ChainExplorer.Transaction
