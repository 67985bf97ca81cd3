import ChainExplorer.Proofs.History.Outcome
import Mathlib.Data.List.Permutation

/-!
# Inquiries come to their page

Here the index has one list for the address, the node one answer for each id, and there is no store.
When they answer is left open, and so is when lookups are submitted and taken up. As no answer
depends on it, an inquiry can only come to one page, the one that is said without any rounds; that
it does come to it is the other half (`comes_to_sequential_page`).
-/

namespace ChainExplorer.History.Inquiry

/-! ## Steps of an inquiry whose servers answer in a fixed way -/

/-- What can happen if the index has one list, each lookup ends as `f` says, and nothing is
cancelled. -/
def Answers (f : String → LookupResult) (index : List Reference) (q : Inquiry) : Event → Prop
  | .index answer => answer = .ok index
  | .found number answer =>
    ∀ round, q.round? = some round → FanOut.Faithful f round (.finish number answer)
  | .cancel => False
  | .next | .enter | .start | .quit _ => True

/-- An inquiry goes on. -/
def Step (f : String → LookupResult) (index : List Reference) (q r : Inquiry) : Prop :=
  ∃ e asks, Answers f index q e ∧ q.step? e = some (r, asks)

/-- One list is an index that has it for every script. -/
theorem step_eq_turn (f : String → LookupResult) (index : List Reference) :
    Step f index = Turn f fun _ => .ok index := by
  have hserves : Answers f index = Serves f fun _ => .ok index := by
    funext q e
    cases e <;> rfl
  funext q r
  rw [Step, Turn, hserves]

/-- An inquiry comes to the page of the specification, whatever the order in which its lookups
end. -/
theorem comes_to_page {f : String → LookupResult} (hf : Carries f) {address key : String}
    (hkey : Address.indexKey address = .ok key) (config : InquiryConfig)
    (index : List Reference) (page size : Nat) :
    Inevitable (Step f index)
      (fun q => q.outcome? = some (.ok (pageBy f address key index page size)))
      (begin config none false address page size).1 := by
  have hnone : ∀ s ∈ (none : Option Store), s.Mirrors f := by
    intro s hs
    cases hs
  have houtcome : outcomeBy f (fun _ => .ok index) address page size
      = .ok (pageBy f address key index page size) := by
    rw [outcomeBy, hkey]
    rfl
  rw [step_eq_turn, ← houtcome]
  exact comes_to_outcome hf _ config hnone address page size

/-- **An inquiry comes to the one page that is said without rounds.** It does so whatever the order
in which its lookups end and however many of them run at a time. If some lookups fail instead, the
inquiry comes to a page that lacks exactly the records that need one of them. -/
theorem comes_to_sequential_page {f : String → LookupResult} (hf : Carries f)
    {address key : String} (hkey : Address.indexKey address = .ok key) (config : InquiryConfig)
    (index : List Reference) (page size : Nat) :
    (∃ shown, Sequential f address key index page size shown ∧
      Inevitable (Step f index) (fun q => q.outcome? = some (.ok shown))
        (begin config none false address page size).1) ∧
    ∀ (lost : List String) (error : String → QueryError), ∃ shown,
      Arranges shown.records
        (((paginate index page size).filter fun r => (needs f r).all (· ∉ lost)).filterMap
          (entryOf? f (paginate index page size) address)) ∧
      Inevitable (Step (failing lost error f) index) (fun q => q.outcome? = some (.ok shown))
        (begin config none false address page size).1 := by
  constructor
  · exact ⟨_, pageBy_sequential _ _ _ _ _ _, comes_to_page hf hkey config index page size⟩
  · intro lost error
    refine ⟨_, ?_, comes_to_page (hf.failing lost error) hkey config index page size⟩
    rw [← entries_failing lost error]
    exact sortRecords_arranges _

/-- The address that the first block pays to. -/
def genesisAddress : String := "1A1zP1eP5QGefi2DMPTfTL5SLmv7DivfNa"

theorem exists_indexKey : ∃ key, Address.indexKey genesisAddress = .ok key := by
  have hok : (Address.indexKey genesisAddress).toOption.isSome = true := by decide +kernel
  cases hkey : Address.indexKey genesisAddress with
  | error error =>
    rw [hkey] at hok
    cases hok
  | ok key => exact ⟨key, rfl⟩

/-- New coins, and a transaction that moves them. -/
def minted (txid : String) : LookupResult :=
  let output : TxOutput := ⟨50, 0, ⟨"", "", .unknown⟩⟩
  if txid = "aa" then .ok ⟨"aa", none, 2, 7, [none], [output]⟩
  else if txid = "bb" then .ok ⟨"bb", none, 1, 9, [some ⟨"aa", 0⟩], [output]⟩
  else .error (.notFound txid)

theorem carries_minted : Carries minted := by
  intro txid tx h
  rw [minted] at h
  split at h
  · rename_i htxid
    cases h
    exact htxid.symm
  · split at h
    · rename_i htxid
      cases h
      exact htxid.symm
    · cases h

/-- The references to both, the older one first. -/
def mintedReferences : List Reference := [⟨"aa", 1⟩, ⟨"bb", 2⟩]

/-- The page of two references, the second of which takes from the first, shows both records, the
newer one first; if the lookup of the second fails, it shows what is left. -/
theorem comes_to_sequential_page_minted :
    ∃ key, Address.indexKey genesisAddress = .ok key ∧
      (∃ shown, Sequential minted genesisAddress key mintedReferences 0 10 shown ∧
        shown.records = entries minted mintedReferences.reverse genesisAddress ∧
        shown.records.map (·.txid) = ["bb", "aa"] ∧
        Inevitable (Step minted mintedReferences) (fun q => q.outcome? = some (.ok shown))
          (begin {} none false genesisAddress 0 10).1) ∧
      ∃ shown, shown.records.map (·.txid) = ["aa"] ∧
        Inevitable (Step (failing ["bb"] .notFound minted) mintedReferences)
          (fun q => q.outcome? = some (.ok shown)) (begin {} none false genesisAddress 0 10).1 := by
  obtain ⟨key, hkey⟩ := exists_indexKey
  obtain ⟨⟨shown, hpage, hcomes⟩, hfails⟩ :=
    comes_to_sequential_page carries_minted hkey {} mintedReferences 0 10
  obtain ⟨left, hleft, hcomesLeft⟩ := hfails ["bb"] .notFound
  refine ⟨key, hkey, ⟨shown, hpage, ?_⟩, left, ?_, hcomesLeft⟩
  · have hpaginate : paginate mintedReferences 0 10 = mintedReferences.reverse := rfl
    obtain ⟨hperm, hordered, -⟩ := hpaginate ▸ hpage.records
    have htimes : (entries minted mintedReferences.reverse genesisAddress).map
        (fun r => (r.txid, r.timestamp)) = [("bb", 9), ("aa", 7)] := by decide +kernel
    obtain ⟨newer, rest, hentries, hnewer, hrest⟩ := List.map_eq_cons_iff.1 htimes
    obtain ⟨older, tail, rfl, holder, hnil⟩ := List.map_eq_cons_iff.1 hrest
    obtain rfl := List.map_eq_nil_iff.1 hnil
    simp only [Prod.mk.injEq] at hnewer holder
    rw [hentries] at hperm ⊢
    -- The other order would show the older one first.
    rcases List.perm_pair.1 hperm with heq | heq
    · exact ⟨heq, by rw [heq, List.map_cons, List.map_singleton, hnewer.1, holder.1], hcomes⟩
    · rw [heq, List.pairwise_pair, hnewer.2, holder.2] at hordered
      exact absurd hordered (by decide)
  · have hentries : (((paginate mintedReferences 0 10).filter fun r =>
        (needs minted r).all (· ∉ ["bb"])).filterMap
          (entryOf? minted (paginate mintedReferences 0 10) genesisAddress)).map (·.txid) = ["aa"] := by
      decide +kernel
    have hids := hleft.perm.map (·.txid)
    rw [hentries] at hids
    exact List.perm_singleton.1 hids

end ChainExplorer.History.Inquiry
