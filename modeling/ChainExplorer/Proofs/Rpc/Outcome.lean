import ChainExplorer.Proofs.Json.Accessors
import ChainExplorer.Proofs.Rpc.Disposition
import ChainExplorer.Proofs.Text.Numeral
import Mathlib.Logic.ExistsUnique

/-!
# What a reply says to the call that it answers

Three members of a reply count, and each of them may be missing, `null` or of any shape. `Says` is the
table of what a call makes of them: the id comes first, then the error, and the result only where
there is no error. One line of the table fits any reply, and no two do (`Holds.existsUnique_says`).

The line of an error has three cases (`States`): an object with a code and a message, a bare string,
and whatever else. The reader of the first case goes by the names of the members, but it takes an
array as well, whose items it goes through by their places. So an array of a code and a message
(`Paired`) passes for the object, and a call makes of a reply what the table says exactly if the
error in it is no such pair (`read_by_table_unless_paired`).
-/

namespace ChainExplorer
namespace Rpc

open Client Json Text

/-! ## The members of a reply -/

/-- A member that is there and is not `null`. -/
def Present (members : List (String × Json)) (key : String) (value : Json) : Prop :=
  (key, value) ∈ members ∧ value ≠ .null

/-- The id among some members. One that is missing is `null`. -/
inductive Identified (members : List (String × Json)) : Json → Prop
  | given {value : Json} (h : ("id", value) ∈ members) : Identified members value
  | missing (h : ∀ value, ("id", value) ∉ members) : Identified members .null

/-- No member that counts is there twice. -/
def Once (members : List (String × Json)) : Prop :=
  ∀ key ∈ ["id", "result", "error"], (valuesOf key members).length ≤ 1

instance (members : List (String × Json)) : Decidable (Once members) := List.decidableBAll _ _

/-- A reply has these members. -/
structure Holds (members : List (String × Json)) (reply : Reply) : Prop where
  id : ∀ value, Identified members value ↔ reply.id = value
  result : ∀ value, Present members "result" value ↔ reply.result = some value
  error : ∀ value, Present members "error" value ↔ reply.error = some value

section Members

variable {members : List (String × Json)} {key : String} {value : Json}

theorem mem_valuesOf : value ∈ valuesOf key members ↔ (key, value) ∈ members := by
  simp [valuesOf]

/-- The value of a member that is there at most once. -/
theorem head?_valuesOf (h : (valuesOf key members).length ≤ 1) :
    (valuesOf key members).head? = some value ↔ (key, value) ∈ members := by
  rw [← mem_valuesOf]
  match valuesOf key members, h with
  | [], _ => simp
  | [only], _ => simp [eq_comm]

theorem present_eq_some {other : Json} :
    present value = some other ↔ value = other ∧ other ≠ .null := by
  cases value with
  | null =>
    constructor
    · exact nofun
    · rintro ⟨rfl, hne⟩
      exact absurd rfl hne
  | _ =>
    constructor
    · intro h
      obtain rfl := Option.some.inj h
      exact ⟨rfl, nofun⟩
    · rintro ⟨rfl, -⟩
      rfl

theorem bind_present (h : (valuesOf key members).length ≤ 1) :
    Present members key value ↔ (valuesOf key members).head?.bind present = some value := by
  simp only [Option.bind_eq_some_iff, head?_valuesOf h, present_eq_some]
  constructor
  · rintro ⟨hmem, hne⟩
    exact ⟨value, hmem, rfl, hne⟩
  · rintro ⟨_, hmem, rfl, hne⟩
    exact ⟨hmem, hne⟩

theorem identified_iff (h : (valuesOf "id" members).length ≤ 1) :
    Identified members value ↔ (valuesOf "id" members).head?.getD .null = value := by
  cases hhead : (valuesOf "id" members).head? with
  | none =>
    have hnone : ∀ value, ("id", value) ∉ members := by
      intro value hmem
      rw [← head?_valuesOf h, hhead] at hmem
      cases hmem
    constructor
    · rintro (hmem | -)
      · exact absurd hmem (hnone _)
      · rfl
    · rintro rfl
      exact .missing hnone
  | some given =>
    have hgiven : ("id", given) ∈ members := (head?_valuesOf h).1 hhead
    constructor
    · rintro (hmem | hnone)
      · rw [← head?_valuesOf h, hhead] at hmem
        exact Option.some.inj hmem
      · exact absurd hgiven (hnone given)
    · rintro rfl
      exact .given hgiven

/-- An object is a reply if no member that counts is there twice, and it has these members. -/
theorem exists_reply (once : Once members) :
    ∃ reply, Reply.ofJson? (.object members) = some reply ∧ Holds members reply := by
  have hid := once "id" (by decide)
  have hresult := once "result" (by decide)
  have herror := once "error" (by decide)
  have hread : Reply.ofMembers? members = some _ := if_pos ⟨hid, hresult, herror⟩
  exact ⟨_, hread, fun _ => identified_iff hid, fun _ => bind_present hresult,
    fun _ => bind_present herror⟩

end Members

/-! ## The id -/

/-- An id that stands for the number of a request: that number, or a numeral of it in a string. -/
inductive Bears (id : UInt64) : Json → Prop
  | number : Bears id (.int id.toNat)
  | numeral {text : String} (h : Spells text.toList id.toNat) : Bears id (.string text)

theorem replyId?_eq_some {id : UInt64} {value : Json} :
    replyId? value = some id.toNat ↔ Bears id value := by
  have hword : id.toNat < wordBound := id.toNat_lt
  constructor
  · intro h
    unfold replyId? at h
    split at h
    · exact .numeral (unsigned?_eq_some.1 h).1
    · obtain ⟨rfl, -⟩ := natural?_eq_some.1 h
      exact .number
  · intro h
    cases h with
    | number =>
      show (Json.int id.toNat).natural? = some id.toNat
      exact natural?_eq_some.2 ⟨rfl, hword⟩
    | numeral hspells => exact unsigned?_eq_some.2 ⟨hspells, hword⟩

/-! ## The error -/

/-- An object with a code of a signed word and a message. -/
structure Coded (error : Json) (code : Int) (message : String) : Prop where
  isObject : ∃ members, error = .object members
  hasCode : error.get? "code" = some (.int code)
  fits : Signed code
  hasMessage : error.get? "message" = some (.string message)

/-- An array of a code of a signed word and a message. -/
structure Paired (error : Json) (code : Int) (message : String) : Prop where
  items : error = .array [.int code, .string message]
  fits : Signed code

/-- What an error states. -/
inductive States (error : Json) : RpcError → Prop
  | coded {code : Int} {message : String} (h : Coded error code message) :
      States error (.server code message)
  | bare {text : String} (h : error = .string text) : States error (.server 0 text)
  | odd (uncoded : ∀ code message, ¬ Coded error code message)
      (notBare : ∀ text, error ≠ .string text) :
      States error (.invalidResponse (.nonStandardError error))

section Error

variable {error : Json} {code : Int} {message : String} {cause : RpcError}

theorem Coded.unique {code' : Int} {message' : String} (h : Coded error code message)
    (h' : Coded error code' message') : code = code' ∧ message = message' := by
  have hcode := h.hasCode.symm.trans h'.hasCode
  have hmessage := h.hasMessage.symm.trans h'.hasMessage
  simp only [Option.some.injEq, Json.int.injEq, Json.string.injEq] at hcode hmessage
  exact ⟨hcode, hmessage⟩

theorem Coded.ne_string {text : String} (h : Coded error code message) : error ≠ .string text := by
  obtain ⟨members, rfl⟩ := h.isObject
  exact nofun

theorem States.unique {other : RpcError} (h : States error cause) (h' : States error other) :
    cause = other := by
  cases h with
  | coded hcoded =>
    cases h' with
    | coded hcoded' =>
      obtain ⟨rfl, rfl⟩ := hcoded.unique hcoded'
      rfl
    | bare hbare => exact absurd hbare hcoded.ne_string
    | odd uncoded => exact absurd hcoded (uncoded _ _)
  | bare hbare =>
    cases h' with
    | coded hcoded => exact absurd hbare hcoded.ne_string
    | bare hbare' =>
      obtain rfl := Json.string.inj (hbare.symm.trans hbare')
      rfl
    | odd _ notBare => exact absurd hbare (notBare _)
  | odd uncoded notBare =>
    cases h' with
    | coded hcoded => exact absurd hcoded (uncoded _ _)
    | bare hbare => exact absurd hbare (notBare _)
    | odd => rfl

theorem exists_states (error : Json) : ∃ cause, States error cause := by
  by_cases hcoded : ∃ code message, Coded error code message
  · obtain ⟨code, message, h⟩ := hcoded
    exact ⟨_, .coded h⟩
  by_cases hbare : ∃ text, error = .string text
  · obtain ⟨text, h⟩ := hbare
    exact ⟨_, .bare h⟩
  · simp only [not_exists] at hcoded hbare
    exact ⟨_, .odd hcoded hbare⟩

/-- The code and the message of an object are read by their names. -/
theorem states_object (members : List (String × Json)) :
    States (.object members) (RpcError.ofJson (.object members)) := by
  rw [RpcError.ofJson]
  split
  · rename_i code message hcode hmessage
    obtain ⟨value, hvalue, hread⟩ := Option.bind_eq_some_iff.1 hcode
    obtain ⟨text, htext, hstring⟩ := Option.bind_eq_some_iff.1 hmessage
    obtain ⟨rfl, hfits⟩ := integer?_eq_some.1 hread
    obtain rfl := string?_eq_some.1 hstring
    exact .coded ⟨⟨members, rfl⟩, hvalue, hfits, htext⟩
  · rename_i hread
    refine .odd (fun code message hcoded => hread code message ?_ ?_) nofun
    · exact Option.bind_eq_some_iff.2 ⟨_, hcoded.hasCode, integer?_eq_some.2 ⟨rfl, hcoded.fits⟩⟩
    · exact Option.bind_eq_some_iff.2 ⟨_, hcoded.hasMessage, rfl⟩

/-- A pair of a code and a message passes for an object that has them. -/
theorem ofJson_of_paired (h : Paired error code message) :
    RpcError.ofJson error = .server code message := by
  obtain ⟨rfl, hfits⟩ := h
  rw [RpcError.ofJson, integer?_eq_some.2 ⟨rfl, hfits⟩]
  rfl

/-- No other array does. -/
theorem ofJson_array {items : List Json}
    (h : ∀ code message, ¬ Paired (.array items) code message) :
    RpcError.ofJson (.array items) = .invalidResponse (.nonStandardError (.array items)) := by
  unfold RpcError.ofJson
  split
  · rename_i heq
    cases heq
  · rename_i heq
    cases heq
  · rename_i first second heq
    split
    · rename_i code message hcode hmessage
      obtain ⟨rfl, hfits⟩ := integer?_eq_some.1 hcode
      obtain rfl := string?_eq_some.1 hmessage
      exact absurd ⟨heq, hfits⟩ (h code message)
    · rfl
  · rfl

theorem odd_of_array (items : List Json) :
    States (.array items) (.invalidResponse (.nonStandardError (.array items))) := by
  refine .odd (fun code message hcoded => ?_) nofun
  obtain ⟨members, heq⟩ := hcoded.isObject
  cases heq

/-- **An error is read for what it states exactly if it is no pair.** -/
theorem states_ofJson_iff :
    States error (RpcError.ofJson error) ↔ ∀ code message, ¬ Paired error code message := by
  constructor
  · intro h code message hpaired
    rw [ofJson_of_paired hpaired] at h
    obtain ⟨rfl, -⟩ := hpaired
    cases (odd_of_array _).unique h
  · intro h
    cases error with
    | object members => exact states_object members
    | array items =>
      rw [ofJson_array h]
      exact odd_of_array items
    | string text => exact .bare rfl
    | null | bool | int | float =>
      refine .odd (fun code message hcoded => ?_) nofun
      obtain ⟨members, heq⟩ := hcoded.isObject
      cases heq

end Error

/-! ## The table -/

/-- What a reply with these members says to the call with an id. -/
inductive Says (members : List (String × Json)) (id : UInt64) : Except RpcError Json → Prop
  /-- It answers something else. -/
  | foreign {value : Json} (hid : Identified members value) (astray : ¬ Bears id value) :
      Says members id (.error (.transport (.protocol (.foreignId value id.toNat))))
  /-- It states an error, whatever its result. -/
  | fails {value error : Json} {cause : RpcError} (hid : Identified members value)
      (bears : Bears id value) (herror : Present members "error" error)
      (hcause : States error cause) : Says members id (.error cause)
  | yields {value result : Json} (hid : Identified members value) (bears : Bears id value)
      (sound : ∀ error, ¬ Present members "error" error)
      (hresult : Present members "result" result) : Says members id (.ok result)
  /-- It states neither an error nor a result. -/
  | nothing {value : Json} (hid : Identified members value) (bears : Bears id value)
      (sound : ∀ error, ¬ Present members "error" error)
      (empty : ∀ result, ¬ Present members "result" result) : Says members id (.ok .null)

/-- A reply that is meant for the call with an id has a pair of a code and a message for its error. -/
def SaysPair (members : List (String × Json)) (id : UInt64) (code : Int) (message : String) : Prop :=
  ∃ value error, Identified members value ∧ Bears id value ∧ Present members "error" error ∧
    Paired error code message

section Table

variable {members : List (String × Json)} {reply : Reply} {id : UInt64}
  {outcome : Except RpcError Json}

/-! The table, read off a reply instead of its members. -/

theorem Holds.says_foreign (h : Holds members reply) (astray : ¬ Bears id reply.id) :
    Says members id outcome ↔
      outcome = .error (.transport (.protocol (.foreignId reply.id id.toNat))) := by
  constructor
  · rintro (⟨hid, -⟩ | ⟨hid, bears, -⟩ | ⟨hid, bears, -⟩ | ⟨hid, bears, -⟩) <;>
      obtain rfl := (h.id _).1 hid
    · rfl
    all_goals exact absurd bears astray
  · rintro rfl
    exact .foreign ((h.id _).2 rfl) astray

theorem Holds.says_error (h : Holds members reply) (bears : Bears id reply.id) {error : Json}
    (herror : reply.error = some error) :
    Says members id outcome ↔ ∃ cause, States error cause ∧ outcome = .error cause := by
  have hpresent : Present members "error" error := (h.error error).2 herror
  constructor
  · intro hsays
    cases hsays with
    | foreign hid astray =>
      obtain rfl := (h.id _).1 hid
      exact absurd bears astray
    | @fails _ stated cause _ _ hstated hcause =>
      obtain rfl : error = stated := Option.some.inj (herror.symm.trans ((h.error _).1 hstated))
      exact ⟨cause, hcause, rfl⟩
    | yields _ _ sound => exact absurd hpresent (sound error)
    | nothing _ _ sound => exact absurd hpresent (sound error)
  · rintro ⟨cause, hcause, rfl⟩
    exact .fails ((h.id _).2 rfl) bears hpresent hcause

theorem Holds.says_sound (h : Holds members reply) (bears : Bears id reply.id)
    (herror : reply.error = none) :
    Says members id outcome ↔ outcome = .ok (reply.result.getD .null) := by
  have sound (error : Json) : ¬ Present members "error" error := by
    rw [h.error, herror]
    exact nofun
  constructor
  · intro hsays
    cases hsays with
    | foreign hid astray =>
      obtain rfl := (h.id _).1 hid
      exact absurd bears astray
    | fails _ _ hstated => exact absurd hstated (sound _)
    | yields _ _ _ hresult =>
      rw [(h.result _).1 hresult]
      rfl
    | nothing _ _ _ empty =>
      have hnone : reply.result = none :=
        Option.eq_none_iff_forall_ne_some.2 fun result => mt (h.result result).2 (empty result)
      rw [hnone]
      rfl
  · rintro rfl
    have hid : Identified members reply.id := (h.id _).2 rfl
    cases hresult : reply.result with
    | some result => exact .yields hid bears sound ((h.result result).2 hresult)
    | none =>
      refine .nothing hid bears sound fun result => ?_
      rw [h.result, hresult]
      exact nofun

/-- **One line of the table fits a reply.** -/
theorem Holds.existsUnique_says (h : Holds members reply) : ∃! said, Says members id said := by
  by_cases bears : Bears id reply.id
  · cases herror : reply.error with
    | none =>
      simp only [h.says_sound bears herror]
      exact existsUnique_eq
    | some error =>
      obtain ⟨cause, hcause⟩ := exists_states error
      refine ⟨.error cause, (h.says_error bears herror).2 ⟨cause, hcause, rfl⟩, fun said hsaid => ?_⟩
      obtain ⟨other, hother, rfl⟩ := (h.says_error bears herror).1 hsaid
      rw [hother.unique hcause]
  · simp only [h.says_foreign bears]
    exact existsUnique_eq

theorem Holds.saysPair_iff (h : Holds members reply) {code : Int} {message : String} :
    SaysPair members id code message ↔
      Bears id reply.id ∧ ∃ error, reply.error = some error ∧ Paired error code message := by
  constructor
  · rintro ⟨value, error, hid, bears, herror, hpaired⟩
    obtain rfl := (h.id _).1 hid
    exact ⟨bears, error, (h.error error).1 herror, hpaired⟩
  · rintro ⟨bears, error, herror, hpaired⟩
    exact ⟨reply.id, error, (h.id _).2 rfl, bears, (h.error error).2 herror, hpaired⟩

/-- **A call makes of a reply what the table says exactly if there is no pair in it.** -/
theorem Holds.says_answerTo (h : Holds members reply) :
    Says members id (reply.answerTo id) ↔ ∀ code message, ¬ SaysPair members id code message := by
  simp only [h.saysPair_iff]
  by_cases bears : Bears id reply.id
  · rw [Reply.answerTo, if_pos (replyId?_eq_some.2 bears)]
    cases herror : reply.error with
    | none => simp [h.says_sound bears herror, Reply.outcome, herror]
    | some error =>
      rw [h.says_error bears herror, Reply.outcome, herror]
      constructor
      · rintro ⟨cause, hcause, heq⟩ code message ⟨-, _, hsome, hpaired⟩
        obtain rfl := Option.some.inj hsome
        obtain rfl := Except.error.inj heq
        exact states_ofJson_iff.1 hcause code message hpaired
      · intro hunpaired
        refine ⟨_, states_ofJson_iff.2 fun code message hpaired => ?_, rfl⟩
        exact hunpaired code message ⟨bears, error, rfl, hpaired⟩
  · rw [Reply.answerTo, if_neg (mt replyId?_eq_some.1 bears), h.says_foreign bears]
    simp [bears]

/-- A pair is told as the object of its items would be. -/
theorem Holds.answerTo_of_saysPair (h : Holds members reply) {code : Int} {message : String}
    (hpair : SaysPair members id code message) :
    reply.answerTo id = .error (.server code message) := by
  obtain ⟨bears, error, herror, hpaired⟩ := h.saysPair_iff.1 hpair
  rw [Reply.answerTo, if_pos (replyId?_eq_some.2 bears), Reply.outcome, herror]
  exact congrArg Except.error (ofJson_of_paired hpaired)

end Table

/-! ## What the node does not know -/

/-- One of the phrases of the node occurs in a message, whatever the case of its letters. -/
def NamesNotFound (message : String) : Prop :=
  ∃ phrase ∈ notFoundPhrases, ∃ front part back, message.toList = front ++ part ++ back ∧
    part.map Char.toLower = phrase.toList

theorem occursIn_iff {part cs : List Char} : occursIn part cs = true ↔ part <:+: cs := by
  induction cs with
  | nil => rw [occursIn, List.isEmpty_iff, List.infix_nil]
  | cons c cs ih =>
    rw [occursIn, Bool.or_eq_true, ih, List.isPrefixOf_iff_prefix, List.infix_cons_iff]

theorem infix_map_iff {α β : Type} {f : α → β} {part : List β} {xs : List α} :
    part <:+: xs.map f ↔ ∃ front mid back, xs = front ++ mid ++ back ∧ mid.map f = part := by
  constructor
  · rintro ⟨front, back, heq⟩
    obtain ⟨xs, rest, rfl, hxs, rfl⟩ := List.map_eq_append_iff.1 heq.symm
    obtain ⟨before, mid, rfl, rfl, rfl⟩ := List.map_eq_append_iff.1 hxs
    exact ⟨before, mid, rest, rfl, rfl⟩
  · rintro ⟨front, mid, back, rfl, rfl⟩
    exact ⟨front.map f, back.map f, by simp⟩

theorem saysNotFound_iff {code : Int} {message : String} :
    saysNotFound code message = true ↔ code = -5 ∧ NamesNotFound message := by
  simp only [saysNotFound, Bool.and_eq_true, beq_iff_eq, List.any_eq_true, occursIn_iff, lowerText,
    infix_map_iff, NamesNotFound]

/-- **A transaction is not found exactly if the server says so with the code for it.** -/
theorem read_eq_notFound {asked txid : String} {outcome : Except RpcError Json} :
    (transaction asked).read outcome = .error (.notFound txid) ↔
      txid = asked ∧ ∃ message, outcome = .error (.server (-5) message) ∧ NamesNotFound message := by
  show readTransaction asked outcome = _ ↔ _
  cases outcome with
  | ok raw =>
    constructor
    · intro h
      rw [readTransaction] at h
      cases hread : Transaction.ofJson raw <;> rw [hread] at h <;> cases h
    · rintro ⟨-, message, heq, -⟩
      cases heq
  | error cause =>
    rw [readTransaction]
    cases cause with
    | server code message =>
      rw [lookupError]
      constructor
      · intro h
        split at h
        · rename_i hsays
          obtain ⟨rfl, hnames⟩ := saysNotFound_iff.1 hsays
          cases h
          exact ⟨rfl, message, rfl, hnames⟩
        · cases h
      · rintro ⟨rfl, other, heq, hnames⟩
        cases heq
        rw [if_pos (saysNotFound_iff.2 ⟨rfl, hnames⟩)]
    | pool | transport | invalidResponse =>
      constructor
      · intro h
        cases h
      · rintro ⟨-, message, heq, -⟩
        cases heq

/-- **What a call makes of a reply.** In every run of a client, let a reply arrive for an exchange that
has not ended: an object none of whose members that count is there twice. Then

* the call is answered at once, and told one outcome;
* one line of the table fits the reply, and the outcome is the one of that line exactly if the
  error of the reply is no pair;
* a pair is told as an error of the server, and so not as the table has it;
* a lookup of a transaction comes to that it is not found exactly if the call was told so by the
  server. -/
theorem read_by_table_unless_paired {config : PoolConfig} {callTimeout : Nat} {firstId : UInt64}
    {ms : Moments} {c : Client} (run : Runs config callTimeout firstId ms c) {x : Exchange}
    (hx : x ∈ c.exchanging) {members : List (String × Json)} (once : Once members) :
    ∃ reply out outcome, Reply.ofJson? (.object members) = some reply ∧
      c.step? (.replied x.ticket (.ok reply)) = some out ∧
      out.2 = [.answer x.ticket outcome] ∧
      (∃! said, Says members x.request.id said) ∧
      (Says members x.request.id outcome ↔
        ∀ code message, ¬ SaysPair members x.request.id code message) ∧
      (∀ code message, SaysPair members x.request.id code message →
        outcome = .error (.server code message)) ∧
      ∀ asked txid, (transaction asked).read outcome = .error (.notFound txid) ↔
        txid = asked ∧
          ∃ message, outcome = .error (.server (-5) message) ∧ NamesNotFound message := by
  obtain ⟨reply, hreply, holds⟩ := exists_reply once
  obtain ⟨out, hs, ended⟩ := (consistent_of_runs run).can_end hx (.replied (.ok reply)) nofun
  exact ⟨reply, out, reply.answerTo x.request.id, hreply, hs, ended.outputs,
    holds.existsUnique_says, holds.says_answerTo, fun code message => holds.answerTo_of_saysPair,
    fun asked txid => read_eq_notFound⟩

/-- A call sends its request under the number seven. -/
def asking : List Event := [.call 0 "getrawtransaction" [], .pool (.connected 0)]

/-- The moments of that run, and the client after it. -/
def awaiting : Moments × Client :=
  let start := fresh (Pool.fresh {}) 5 7
  (Trace.retrace? step? start asking).getD ([], start)

/-- The exchange that stands then. -/
def awaited : Exchange := ⟨0, 0, ⟨7, "getrawtransaction", []⟩, 5⟩

theorem runs_awaiting : Runs {} 5 7 awaiting.1 awaiting.2 := by
  have retraced : Trace.retrace? step? (fresh (Pool.fresh {}) 5 7) asking
      = some (awaiting.1, awaiting.2) := rfl
  exact ⟨_, rfl, Trace.of_retrace? retraced⟩

theorem awaited_mem : awaited ∈ awaiting.2.exchanging :=
  List.mem_of_getElem? (i := 0) rfl

/-- A reply with an error and a result, its id in a string. -/
def declining : List (String × Json) :=
  [("id", .string "+7"), ("result", .int 1),
    ("error", .object [("code", .int (-5)), ("message", .string "TX Not Found")])]

theorem says_declining : Says declining 7 (.error (.server (-5) "TX Not Found")) := by
  have hid : ("id", Json.string "+7") ∈ declining := by simp [declining]
  have bears : Bears 7 (.string "+7") :=
    .numeral ⟨['7'], .inr rfl, by decide, List.forall_mem_singleton.2 rfl, rfl⟩
  have herror : Present declining "error"
      (.object [("code", .int (-5)), ("message", .string "TX Not Found")]) :=
    ⟨by simp [declining], nofun⟩
  refine .fails (.given hid) bears herror (.coded ⟨⟨_, rfl⟩, rfl, ?_, rfl⟩)
  constructor <;> decide

/-- The caller is told the error, and a lookup comes to that the transaction is not found. -/
theorem read_by_table_unless_paired_declining : ∃ ms c x reply out, Runs {} 5 7 ms c ∧
    x ∈ c.exchanging ∧ Reply.ofJson? (.object declining) = some reply ∧
    c.step? (.replied x.ticket (.ok reply)) = some out ∧
    out.2 = [.answer x.ticket (.error (.server (-5) "TX Not Found"))] ∧
    (transaction "ab").read (.error (.server (-5) "TX Not Found")) = .error (.notFound "ab") := by
  have once : Once declining := by decide
  obtain ⟨reply, out, outcome, hreply, hs, hout, hone, htable, -, hread⟩ :=
    read_by_table_unless_paired runs_awaiting awaited_mem once
  have unpaired : ∀ code message, ¬ SaysPair declining awaited.request.id code message := by
    rintro code message ⟨_, error, -, -, ⟨hmem, -⟩, rfl, -⟩
    simp [declining] at hmem
  obtain rfl : outcome = .error (.server (-5) "TX Not Found") :=
    hone.unique (htable.2 unpaired) says_declining
  have names : NamesNotFound "TX Not Found" := by
    refine ⟨"not found", by simp [notFoundPhrases], "TX ".toList, "Not Found".toList, [], ?_, ?_⟩
    all_goals decide
  exact ⟨_, _, _, reply, out, runs_awaiting, awaited_mem, hreply, hs, hout,
    (hread "ab" "ab").2 ⟨rfl, _, rfl, names⟩⟩

/-- A reply whose error is a pair. -/
def pairing : List (String × Json) :=
  [("id", .int 7), ("error", .array [.int (-5), .string "missing"])]

/-- It is no error with a code by the table, but it is told as one. -/
theorem pair_passes_for_object : ∃ ms c x reply out, Runs {} 5 7 ms c ∧ x ∈ c.exchanging ∧
    Reply.ofJson? (.object pairing) = some reply ∧
    c.step? (.replied x.ticket (.ok reply)) = some out ∧
    out.2 = [.answer x.ticket (.error (.server (-5) "missing"))] ∧
    Says pairing x.request.id
      (.error (.invalidResponse (.nonStandardError (.array [.int (-5), .string "missing"])))) ∧
    ¬ Says pairing x.request.id (.error (.server (-5) "missing")) := by
  have once : Once pairing := by decide
  obtain ⟨reply, hreply, holds⟩ := exists_reply once
  obtain ⟨out, hs, ended⟩ :=
    (consistent_of_runs runs_awaiting).can_end awaited_mem (.replied (.ok reply)) nofun
  have hid : ("id", Json.int 7) ∈ pairing := by simp [pairing]
  have herror : Present pairing "error" (.array [.int (-5), .string "missing"]) :=
    ⟨by simp [pairing], nofun⟩
  have paired : Paired (.array [.int (-5), .string "missing"]) (-5) "missing" :=
    ⟨rfl, by constructor <;> decide⟩
  have hpair : SaysPair pairing awaited.request.id (-5) "missing" :=
    ⟨_, _, .given hid, .number, herror, paired⟩
  have hodd : Says pairing awaited.request.id _ := .fails (.given hid) .number herror (odd_of_array _)
  have hout := ended.outputs
  have htold := holds.answerTo_of_saysPair hpair
  refine ⟨_, _, _, reply, out, runs_awaiting, awaited_mem, hreply, hs, ?_, hodd, fun hsays => ?_⟩
  · rw [hout, farewell, Ending.outcome?, htold]
    rfl
  · cases holds.existsUnique_says.unique hodd hsays

end Rpc
end ChainExplorer
