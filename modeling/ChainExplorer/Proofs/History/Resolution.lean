import ChainExplorer.Proofs.History.Inquiry
import ChainExplorer.Proofs.Trace
import ChainExplorer.Proofs.Transaction.Reader
import ChainExplorer.Rpc.Query

/-!
# What a page misses

A round leaves its answers in a table that goes by the ids which the answers carry, and the page
reads the table by the ids that were asked for. As long as the two are spelled alike, a record is
missing only for a reason: a lookup that it needs has failed, or its transaction cannot be
reconciled (`skips_iff_excused`). This is exactly how far it goes (`Lookups.keyed_iff`).

The index may spell an id in capital letters and the node knows it all the same, but what is read
from the node carries its id in lower case. So such a reference is asked for, answered, and missing
from the page nevertheless (`spelled_in_capitals_is_missing`).
-/

namespace ChainExplorer.History

/-! ## Tables of a round -/

/-- Under each id that was asked for stands what its lookup has brought, and nothing if the lookup
has failed. -/
def Lookups.Keyed (asked : Lookups) : Prop :=
  ∀ p ∈ asked, asked.found.lookup p.1 = p.2.toOption

/-- Each success carries the id that was asked for, and lookups of one id bring the same. -/
structure Lookups.Consistent (asked : Lookups) : Prop where
  carried : ∀ p ∈ asked, ∀ tx, p.2 = .ok tx → tx.txid = p.1
  agree : ∀ p ∈ asked, ∀ other ∈ asked, p.1 = other.1 → p.2.toOption = other.2.toOption

section Lookups

variable {asked : Lookups} {txid : String} {tx : Transaction}

theorem Lookups.mem_of_lookup (h : asked.found.lookup txid = some tx) :
    tx.txid = txid ∧ ∃ p ∈ asked, p.2 = .ok tx := by
  rw [Lookups.found, lookup_ofResults] at h
  have hid : tx.txid = txid := by simpa using List.find?_some h
  have hmem := List.mem_reverse.1 (List.mem_of_find?_eq_some h)
  obtain ⟨p, hp, hok⟩ := List.mem_map.1 (mem_filterMap_toOption.1 hmem)
  exact ⟨hid, p, hp, hok⟩

/-- The table has an id if some success carries it. -/
theorem Lookups.lookup_of_mem {p : String × LookupResult} (hp : p ∈ asked) (htx : p.2 = .ok tx) :
    ∃ other, asked.found.lookup tx.txid = some other := by
  rw [Lookups.found, lookup_ofResults]
  have hmem : tx ∈ ((asked.map (·.2)).filterMap Except.toOption).reverse :=
    List.mem_reverse.2 (mem_filterMap_toOption.2 (List.mem_map.2 ⟨p, hp, htx⟩))
  exact Option.isSome_iff_exists.1 (List.find?_isSome.2 ⟨tx, hmem, by simp⟩)

/-- **A table goes by the ids that the answers carry.** -/
theorem Lookups.lookup_isSome_iff (asked : Lookups) (txid : String) :
    (asked.found.lookup txid).isSome ↔ ∃ p ∈ asked, ∃ tx, p.2 = .ok tx ∧ tx.txid = txid := by
  rw [Option.isSome_iff_exists]
  constructor
  · rintro ⟨tx, h⟩
    obtain ⟨hid, p, hp, htx⟩ := mem_of_lookup h
    exact ⟨p, hp, tx, htx, hid⟩
  · rintro ⟨p, hp, tx, htx, rfl⟩
    exact lookup_of_mem hp htx

/-- **It goes by the ids that were asked for exactly if all answers are consistent with them.** -/
theorem Lookups.keyed_iff (asked : Lookups) : asked.Keyed ↔ asked.Consistent := by
  constructor
  · intro h
    refine ⟨fun p hp tx htx => ?_, fun p hp other hother hid => ?_⟩
    · have hfound := h p hp
      rw [htx] at hfound
      exact (mem_of_lookup hfound).1
    · rw [← h p hp, ← h other hother, hid]
  · intro h p hp
    cases hfound : asked.found.lookup p.1 with
    | some tx =>
      -- The answer that is found carries the id, so it is one to the same question.
      obtain ⟨hid, other, hother, htx⟩ := mem_of_lookup hfound
      have hsame := h.agree p hp other hother (hid.symm.trans (h.carried other hother tx htx))
      rw [hsame, htx]
      rfl
    | none =>
      cases hanswer : p.2 with
      | error error => rfl
      | ok tx =>
        obtain ⟨other, hsome⟩ := lookup_of_mem hp hanswer
        rw [h.carried p hp tx hanswer, hfound] at hsome
        cases hsome

end Lookups

/-! ## Records that are missing -/

/-- Whether a reference is counted and not shown. -/
def skips (address : String) (first second : Lookups) (r : Reference) : Bool :=
  ((first.found.lookup r.txid).bind fun tx =>
    (reconcile tx second.found.lookup address).toOption).isNone

/-- Why a record may be missing: its own lookup has failed, or the lookup of a transaction that it
takes from, or it cannot be reconciled although all of them are known. -/
inductive Excused (address : String) (first second : Lookups) (r : Reference) : Prop
  | own {error : QueryError} (h : (r.txid, .error error) ∈ first)
  | taken {tx : Transaction} {txid : String} {error : QueryError} (h : (r.txid, .ok tx) ∈ first)
      (ht : txid ∈ takes tx) (he : (txid, .error error) ∈ second)
  | rejected {tx : Transaction} {error : QueryError} (h : (r.txid, .ok tx) ∈ first)
      (ht : ∀ txid ∈ takes tx, ∃ earlier, (txid, .ok earlier) ∈ second ∧
        second.found.lookup txid = some earlier)
      (he : reconcile tx second.found.lookup address = .error error)

theorem toOption_eq_none {α : Type} {result : Except QueryError α} :
    result.toOption = none ↔ ∃ error, result = .error error := by
  cases result <;> simp [Except.toOption]

/-- Where the tables go by the ids that were asked for, a record is missing only for a reason, and
for each of the reasons. -/
theorem skips_iff_excused {address : String} {references : List Reference}
    {first second : Lookups} (hf : first.Keyed) (hs : second.Keyed)
    (hfirst : (first.map (·.1)).Perm (references.map (·.txid)))
    (hsecond : (second.map (·.1)).Perm first.found.takenIds) {r : Reference}
    (hr : r ∈ references) :
    skips address first second r = true ↔ Excused address first second r := by
  rw [skips, Option.isNone_iff_eq_none]
  constructor
  · intro hskips
    obtain ⟨⟨_, answer⟩, hp, rfl⟩ :=
      List.mem_map.1 (hfirst.mem_iff.2 (List.mem_map_of_mem (f := (·.txid)) hr))
    have hfound := hf _ hp
    cases answer with
    | error error => exact .own hp
    | ok tx =>
      rw [hfound] at hskips
      obtain ⟨error, herror⟩ := toOption_eq_none.1 hskips
      by_cases hlost : ∃ txid ∈ takes tx, ∃ error, (txid, .error error) ∈ second
      · obtain ⟨txid, ht, error, he⟩ := hlost
        exact .taken hp ht he
      · refine .rejected hp (fun txid ht => ?_) herror
        -- What a transaction of the first round takes from has been asked for in the second.
        have hasked := mem_takenIds.2 ⟨tx, List.mem_of_find?_eq_some hfound, ht⟩
        obtain ⟨⟨_, earlier⟩, ho, rfl⟩ := List.mem_map.1 (hsecond.mem_iff.2 hasked)
        cases earlier with
        | error error => exact absurd ⟨_, ht, error, ho⟩ hlost
        | ok earlier => exact ⟨earlier, ho, hs _ ho⟩
  · intro hexcused
    cases hexcused with
    | own h =>
      rw [hf _ h]
      rfl
    | taken h ht he =>
      rw [hf _ h]
      exact reconcile_unknown ht (hs _ he) address
    | rejected h _ he =>
      rw [hf _ h]
      exact toOption_eq_none.2 ⟨_, he⟩

/-- A page counts the references that are skipped. -/
theorem skipped_assemble (address indexKey : String) (index : List Reference) (page size : Nat)
    (first second : Lookups) :
    (assemble address indexKey index page size first.found.lookup second.found.lookup).skipped
      = (paginate index page size).countP (skips address first second) := by
  rw [assemble]
  generalize paginate index page size = references
  have hshown : (recordsOf address first.found.lookup second.found.lookup references).length
      = references.countP fun r => !skips address first second r := by
    rw [recordsOf, List.length_filterMap_eq_countP]
    refine List.countP_congr fun r _ => ?_
    simp [skips]
  have hall := List.length_eq_countP_add_countP (skips address first second) (l := references)
  simp only [hshown, Bool.not_eq_true, Bool.decide_eq_false] at hall ⊢
  omega

/-! ## Ids in lower case -/

/-- An id without a capital letter among its digits. -/
def InLowerCase (txid : String) : Prop := txid.toList.map Hex.lower = txid.toList

theorem lower_lower (c : Char) : Hex.lower (Hex.lower c) = Hex.lower c := by
  have hsmall : ∀ n, n < 71 → 65 ≤ n → Hex.lower (Char.ofNat (n + 32)) = Char.ofNat (n + 32) := by
    decide
  by_cases h : 'A' ≤ c ∧ c ≤ 'F'
  · rw [Hex.lower, Hex.lower, if_pos h]
    exact hsmall c.toNat (Nat.lt_succ_of_le h.2) h.1
  · rw [Hex.lower, Hex.lower, if_neg h, if_neg h]

theorem inLowerCase_of_readId {field txid : String} {value : Option Json}
    (h : Transaction.readId field value = .ok txid) : InLowerCase txid := by
  obtain ⟨text, -, -, rfl⟩ := Transaction.readId_eq_ok.1 h
  rw [InLowerCase, String.toList_ofList, List.map_map]
  exact List.map_congr_left fun c _ => lower_lower c

/-- What is read from the node carries its id in lower case. -/
theorem inLowerCase_of_readTransaction {asked : String} {reply : Except RpcError Json}
    {tx : Transaction} (h : Rpc.readTransaction asked reply = .ok tx) : InLowerCase tx.txid := by
  cases reply with
  | error error => cases h
  | ok raw =>
    rw [Rpc.readTransaction] at h
    cases hread : Transaction.ofJson raw with
    | error fault =>
      rw [hread] at h
      cases h
    | ok read =>
      rw [hread] at h
      obtain rfl := Except.ok.inj h
      obtain ⟨inputs, outputs, -, -, hid, -⟩ := Transaction.ofJson_eq_ok.1 hread
      exact inLowerCase_of_readId hid

/-- A reference that the index spells with a capital letter is missing, whatever the node answers. -/
theorem skips_of_capitals {first second : Lookups} {address : String} {r : Reference}
    (hread : ∀ p ∈ first, ∃ reply, p.2 = Rpc.readTransaction p.1 reply)
    (hr : ¬ InLowerCase r.txid) : skips address first second r = true := by
  have hnone : first.found.lookup r.txid = none := by
    rw [← Option.not_isSome_iff_eq_none, Lookups.lookup_isSome_iff]
    rintro ⟨p, hp, tx, htx, hid⟩
    obtain ⟨reply, hreply⟩ := hread p hp
    exact hr (hid ▸ inLowerCase_of_readTransaction (hreply.symm.trans htx))
  rw [skips, hnone]
  rfl

namespace Inquiry

/-! ## Runs and their lookups -/

/-- What happened to an inquiry, in order. -/
abbrev Moments := List (Moment Inquiry Event (List Ask))

/-- A run with its moments. -/
abbrev Traced (q : Inquiry) (ms : Moments) (r : Inquiry) : Prop :=
  Trace step? (fun _ _ => False) q ms r

/-- The lookups that have ended during a run, in their order. -/
def lookups (ms : Moments) : Lookups := ms.flatMap fun m => m.before.endedBy m.event

/-- Where the index comes from: the store has kept it, or the server has answered with it. -/
def Indexed (store : Option Store) (key : String) (ms : Moments) (index : List Reference) : Prop :=
  store.bind (·.references? key) = some index ∨ ∃ m ∈ ms, m.event = .index (.ok index)

/-- How far an inquiry has come that began as `p`. -/
inductive Stands (p : Inquiry) : Moments → Inquiry → Prop
  | begun (h : p.stage = .index) : Stands p [] p
  | under {ms : Moments} {q : Inquiry} {index : List Reference}
      (hi : Indexed p.store p.indexKey ms index) (h : Accounted p index q (lookups ms)) :
      Stands p ms q
  | failed {ms : Moments} {q : Inquiry} {error : QueryError}
      (h : q.outcome? = some (.error error)) : Stands p ms q

section Stands

variable {p : Inquiry} {ms : Moments} {m : Moment Inquiry Event (List Ask)}

theorem lookups_concat (ms : Moments) (m : Moment Inquiry Event (List Ask)) :
    lookups (ms ++ [m]) = lookups ms ++ m.before.endedBy m.event := by
  simp [lookups]

theorem Stands.step (hp : p.cancelled = false) (h : Stands p ms m.before)
    (hc : m.event ≠ .cancel) (hs : m.before.step? m.event = some (m.after, m.output)) :
    Stands p (ms ++ [m]) m.after := by
  obtain ⟨before, e, asks, after⟩ := m
  cases h with
  | begun hstage =>
    have hround : round? before = none := by
      rw [round?, hstage]
    obtain ⟨answer, -, rfl, rfl⟩ := step?_of_round?_eq_none hround hc hs
    cases answer with
    | error error => exact .failed rfl
    | ok index =>
      exact .under (.inr ⟨_, List.mem_append_right [] List.mem_cons_self, rfl⟩)
        (.ofIndex hp index)
  | under hi hacc =>
    have hkept := (hacc.step hp hc hs).1
    rw [← lookups_concat ms ⟨before, e, asks, after⟩] at hkept
    refine .under ?_ hkept
    rcases hi with hstore | ⟨m, hm, hevent⟩
    · exact .inl hstore
    · exact .inr ⟨m, List.mem_append_left _ hm, hevent⟩
  | failed hfailed =>
    rw [step?_of_outcome? hfailed] at hs
    cases hs

/-- What every event but a cancellation keeps holds all along a run without one. -/
theorem keeps_uncancelled {I : Moments → Inquiry → Prop} {q : Inquiry} (start : I [] p)
    (moment : ∀ {ms m}, I ms m.before → m.event ≠ .cancel →
      m.before.step? m.event = some (m.after, m.output) → I (ms ++ [m]) m.after)
    (run : Traced p ms q) (hc : ∀ m ∈ ms, m.event ≠ .cancel) : I ms q := by
  refine run.keeps (I := fun ms q => (∀ m ∈ ms, m.event ≠ .cancel) → I ms q) (fun _ => start) ?_
    (fun _ hd => hd.elim) hc
  intro ms m ih hs hc
  rw [List.forall_mem_append, List.forall_mem_singleton] at hc
  exact moment (ih hc.1) hc.2 hs

/-- How far an inquiry has come, as long as nothing is cancelled. -/
theorem stands_of_traced {config : InquiryConfig} {store : Option Store} {address key : String}
    {page size : Nat} {q : Inquiry} (hkey : Address.indexKey address = .ok key)
    (run : Traced (begin config store false address page size).1 ms q)
    (hc : ∀ m ∈ ms, m.event ≠ .cancel) :
    Stands ⟨config, address, key, page, size, store, false, .index⟩ ms q := by
  refine keeps_uncancelled ?_ (fun h hm hs => h.step rfl hm hs) run hc
  rw [begin, hkey]
  cases hkept : store.bind (·.references? key) with
  | none =>
    simp only [hkept]
    exact .begun rfl
  | some index =>
    simp only [hkept]
    exact .under (.inl hkept) (.ofIndex rfl index)

theorem outcome?_of_traced {q r : Inquiry} {outcome : Except QueryError Page}
    (h : q.outcome? = some outcome) (run : Traced q ms r) : r.outcome? = some outcome := by
  refine run.keeps (I := fun _ r => r.outcome? = some outcome) h ?_ ?_
  · intro ms m ih hs
    rw [step?_of_outcome? ih] at hs
    cases hs
  · exact fun _ hd => hd.elim

/-- An inquiry that is not cancelled has ended with an error, or it stands somewhere on its way. -/
theorem failed_or_stands {config : InquiryConfig} {store : Option Store} {address : String}
    {page size : Nat} {q : Inquiry}
    (run : Traced (begin config store false address page size).1 ms q)
    (hc : ∀ m ∈ ms, m.event ≠ .cancel) :
    (∃ error, q.outcome? = some (.error error)) ∨ ∃ key,
      Stands ⟨config, address, key, page, size, store, false, .index⟩ ms q := by
  cases hkey : Address.indexKey address with
  | error fault =>
    have hbegin : (begin config store false address page size).1.outcome?
        = some (.error (.decode fault)) := by
      rw [begin, hkey]
      rfl
    exact .inl ⟨_, outcome?_of_traced hbegin run⟩
  | ok key => exact .inr ⟨key, stands_of_traced hkey run hc⟩

end Stands

/-- What a page is made of. -/
structure MadeOf (address : String) (page size : Nat) (index : List Reference)
    (first second : Lookups) (shown : Page) : Prop where
  first_asked : (first.map (·.1)).Perm ((paginate index page size).map (·.txid))
  second_asked : (second.map (·.1)).Perm first.found.takenIds
  assembled : shown = assemble address shown.indexKey index page size first.found.lookup
    second.found.lookup
  skipped : shown.skipped = (paginate index page size).countP (skips address first second)

/-- A page is made of lookups that have ended, one for each reference and one for each transaction
that is taken from. -/
theorem madeOf_of_traced {config : InquiryConfig} {store : Option Store} {address : String}
    {page size : Nat} {ms : Moments} {q : Inquiry} {shown : Page}
    (run : Traced (begin config store false address page size).1 ms q)
    (hc : ∀ m ∈ ms, m.event ≠ .cancel) (hshown : q.outcome? = some (.ok shown)) :
    ∃ index first second, Indexed store shown.indexKey ms index ∧
      lookups ms = first ++ second ∧ MadeOf address page size index first second shown := by
  rcases failed_or_stands run hc with ⟨error, hfailed⟩ | ⟨key, hstands⟩
  · rw [hfailed] at hshown
    cases hshown
  · cases hstands with
    | begun hstage => cases hshown
    | failed hfailed =>
      rw [hfailed] at hshown
      cases hshown
    | @under _ _ index hi hacc =>
      generalize lookups ms = log at hacc ⊢
      cases hacc with
      | first hr hd => cases hshown
      | second hfirst hr hd => cases hshown
      | @done store' first second hfirst hsecond =>
        cases hshown
        exact ⟨index, first, second, hi, rfl, hfirst, hsecond, rfl,
          skipped_assemble address key index page size first second⟩

/-- **What an inquiry has looked up stands under the ids that the answers carry.** So its page is
read by the ids that were asked for exactly where the answers are consistent with them; then a
record is missing only for a reason. An id that is spelled in capitals is asked for in vain. -/
theorem keyed_by_answered_ids {config : InquiryConfig} {store : Option Store} {address : String}
    {page size : Nat} {ms : Moments} {q : Inquiry} {shown : Page}
    (run : Traced (begin config store false address page size).1 ms q)
    (hc : ∀ m ∈ ms, m.event ≠ .cancel) (hshown : q.outcome? = some (.ok shown)) :
    ∃ index first second, Indexed store shown.indexKey ms index ∧
      lookups ms = first ++ second ∧ MadeOf address page size index first second shown ∧
      (∀ txid, (first.found.lookup txid).isSome ↔
        ∃ p ∈ first, ∃ tx, p.2 = .ok tx ∧ tx.txid = txid) ∧
      (∀ txid, (second.found.lookup txid).isSome ↔
        ∃ p ∈ second, ∃ tx, p.2 = .ok tx ∧ tx.txid = txid) ∧
      (first.Keyed ↔ first.Consistent) ∧ (second.Keyed ↔ second.Consistent) ∧
      (first.Consistent → second.Consistent → ∀ r ∈ paginate index page size,
        (skips address first second r = true ↔ Excused address first second r)) ∧
      ((∀ p ∈ first, ∃ reply, p.2 = Rpc.readTransaction p.1 reply) →
        ∀ r ∈ paginate index page size, ¬ InLowerCase r.txid →
          skips address first second r = true) := by
  obtain ⟨index, first, second, hi, hlog, hmade⟩ := madeOf_of_traced run hc hshown
  refine ⟨index, first, second, hi, hlog, hmade, first.lookup_isSome_iff,
    second.lookup_isSome_iff, first.keyed_iff, second.keyed_iff, ?_, ?_⟩
  · intro hone htwo r hr
    exact skips_iff_excused (first.keyed_iff.2 hone) (second.keyed_iff.2 htwo) hmade.first_asked
      hmade.second_asked hr
  · intro hread r _ hcapital
    exact skips_of_capitals hread hcapital

/-- An id as an index may spell it. -/
def capitals : String := "02000000000000000000000000000000000000000000000000000000000000EE"

/-- What the node says of it. -/
def coinsReply : Json := .ofMembers [
  ("txid", .string capitals), ("confirmations", .int 1), ("blocktime", .int 1700000600),
  ("vin", .array [.object [("coinbase", .string "00")]]), ("vout", .array [])]

/-- What is read from that. -/
def coins : Transaction where
  txid := "02000000000000000000000000000000000000000000000000000000000000ee"
  blockHash := none
  confirmations := 1
  time := 1700000600
  inputs := [none]
  outputs := []

/-- An inquiry about an address whose index has this id alone. -/
def inquirer (key : String) : Inquiry :=
  ⟨{}, genesisAddress, key, 0, 10, none, false, .index⟩

/-- What happens to it from the beginning to the end. -/
def answers : List Event :=
  [.index (.ok [⟨capitals, 1⟩]), .next, .next, .start, .found 0 (.ok coins), .next]

/-- The moments of the inquiry and what it comes to. -/
def inquired (key : String) : Moments × Inquiry :=
  (Trace.retrace? step? (inquirer key) answers).getD ([], inquirer key)

/-- Its page. -/
def inquiredPage (key : String) : Page :=
  assemble genesisAddress key [⟨capitals, 1⟩] 0 10 (Lookups.found [(capitals, .ok coins)]).lookup
    (Lookups.found []).lookup

theorem inquired_traced {key : String} (hkey : Address.indexKey genesisAddress = .ok key) :
    Traced (begin {} none false genesisAddress 0 10).1 (inquired key).1 (inquired key).2 ∧
      (∀ m ∈ (inquired key).1, m.event ≠ .cancel) ∧
      (inquired key).2.outcome? = some (.ok (inquiredPage key)) := by
  have retraced : Trace.retrace? step? (inquirer key) answers
      = some ((inquired key).1, (inquired key).2) := rfl
  refine ⟨?_, ?_, rfl⟩
  · rw [begin, hkey]
    exact Trace.of_retrace? retraced
  · intro m hm hcancel
    have hevent := Trace.event_mem_of_retrace? retraced hm
    rw [hcancel] at hevent
    simp [answers] at hevent

theorem readTransaction_coins :
    Rpc.readTransaction capitals (.ok coinsReply) = .ok coins := by
  have hread : (Rpc.readTransaction capitals (.ok coinsReply)).toOption = some coins := by
    decide +kernel
  exact toOption_eq_some.1 hread

/-- The inquiry about the id in capitals: its one lookup is answered by the node. -/
theorem keyed_by_answered_ids_inquired : ∃ ms q shown,
    Traced (begin {} none false genesisAddress 0 10).1 ms q ∧ (∀ m ∈ ms, m.event ≠ .cancel) ∧
    q.outcome? = some (.ok shown) ∧ lookups ms = [(capitals, .ok coins)] ∧
    ∃ index first second, Indexed none shown.indexKey ms index ∧
      lookups ms = first ++ second ∧ MadeOf genesisAddress 0 10 index first second shown ∧
      (first.Keyed ↔ first.Consistent) ∧ (second.Keyed ↔ second.Consistent) ∧
      ∀ r ∈ paginate index 0 10, ¬ InLowerCase r.txid →
        skips genesisAddress first second r = true := by
  obtain ⟨key, hkey⟩ := exists_indexKey
  obtain ⟨run, hc, hshown⟩ := inquired_traced hkey
  have hall : lookups (inquired key).1 = [(capitals, .ok coins)] := rfl
  obtain ⟨index, first, second, hi, hlog, hmade, -, -, hfirst, hsecond, -, hcapitals⟩ :=
    keyed_by_answered_ids run hc hshown
  refine ⟨_, _, _, run, hc, hshown, hall, index, first, second, hi, hlog, hmade, hfirst, hsecond,
    hcapitals fun p hp => ⟨.ok coinsReply, ?_⟩⟩
  have hone : p ∈ [(capitals, (.ok coins : LookupResult))] := by
    rw [← hall, hlog]
    exact List.mem_append_left second hp
  rw [List.mem_singleton.1 hone, readTransaction_coins]

/-- **The lookup of an id in capitals succeeds, and its transaction can be reconciled, but the page
misses it.** -/
theorem spelled_in_capitals_is_missing : ∃ ms q shown,
    Traced (begin {} none false genesisAddress 0 10).1 ms q ∧ (∀ m ∈ ms, m.event ≠ .cancel) ∧
    q.outcome? = some (.ok shown) ∧ lookups ms = [(capitals, .ok coins)] ∧
    Rpc.readTransaction capitals (.ok coinsReply) = .ok coins ∧
    ¬ Lookups.Keyed [(capitals, .ok coins)] ∧
    skips genesisAddress [(capitals, .ok coins)] [] ⟨capitals, 1⟩ = true ∧
    ¬ Excused genesisAddress [(capitals, .ok coins)] [] ⟨capitals, 1⟩ ∧
    shown.skipped = 1 ∧ shown.records = [] := by
  obtain ⟨key, hkey⟩ := exists_indexKey
  obtain ⟨run, hc, hshown⟩ := inquired_traced hkey
  have hnone : (Lookups.found [(capitals, .ok coins)]).lookup capitals = none := by
    decide +kernel
  have hreconciled :
      (reconcile coins (Lookups.found []).lookup genesisAddress).toOption.isSome = true := by
    decide +kernel
  have hpage : paginate [(⟨capitals, 1⟩ : Reference)] 0 10 = [⟨capitals, 1⟩] := rfl
  have hrecords : recordsOf genesisAddress (Lookups.found [(capitals, .ok coins)]).lookup
      (Lookups.found []).lookup [⟨capitals, 1⟩] = [] := by
    simp only [recordsOf, List.filterMap_cons, hnone, Option.bind_none, List.filterMap_nil]
  have honly : ∀ {answer}, (capitals, answer) ∈ [(capitals, (.ok coins : LookupResult))] →
      answer = .ok coins := fun h => congrArg Prod.snd (List.mem_singleton.1 h)
  refine ⟨_, _, _, run, hc, hshown, rfl, readTransaction_coins, ?_, ?_, ?_, ?_, ?_⟩
  · intro hkeyed
    have hfound := hkeyed _ List.mem_cons_self
    rw [hnone] at hfound
    cases hfound
  · rw [skips, hnone]
    rfl
  · intro hexcused
    cases hexcused with
    | own h => cases honly h
    | taken h ht he => cases he
    | rejected h ht he =>
      cases honly h
      rw [he] at hreconciled
      cases hreconciled
  · rw [inquiredPage, assemble, hpage, hrecords]
    rfl
  · rw [inquiredPage, assemble, hpage, hrecords]
    exact List.mergeSort_nil

end Inquiry

end ChainExplorer.History
